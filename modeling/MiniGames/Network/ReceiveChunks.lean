import MiniGames.Network.ReceiveStream

set_option autoImplicit false

namespace MiniGames

open Framing

theorem filter_eraseIdx {α : Type*} {keep : α → Bool} {items : List α} {only : α}
    (single : items.filter keep = [only]) :
    ∃ position, items.findIdx? keep = some position ∧ items[position]? = some only ∧
      (items.eraseIdx position).filter keep = [] := by
  induction items with
  | nil => simp at single
  | cons item rest ih =>
    cases kept : keep item with
    | true =>
      simp only [List.filter_cons, kept, if_true, List.cons.injEq] at single
      exact ⟨0, by simp [List.findIdx?_cons, kept], by simp [single.1], by simpa using single.2⟩
    | false =>
      rw [List.filter_cons_of_neg (by simp [kept])] at single
      obtain ⟨position, found, item, erased⟩ := ih single
      exact ⟨position + 1, by simp [List.findIdx?_cons, kept, found], by simpa using item,
        by simp [kept, erased]⟩

namespace Server

open Circular Runs CRingBufferT

variable (env : Environment) (index : Index)

def isReceive (request : IORequest) : Bool :=
  request.index = index ∧ request.operation = .recv

/-- Winsock completes the receive with a chunk and a worker handles the completion. A chunk for a
session without a receive reaches no handler. -/
def deliver (server : Server) (chunk : List UInt8) : Option Server :=
  match server.outstanding.findIdx? (isReceive index) with
  | some position =>
      execute (step env) server [.receive position chunk, .worker server.completions.length]
  | none => some server

/-- No chunk is empty, or longer than the free space of the ring when its receive is posted. -/
def admissible : (chunks : List (List UInt8)) → (server : Server) → Bool
  | [], _ => true
  | chunk :: rest, server =>
      decide (chunk ≠ [] ∧ ((server.sessions index).valid = true →
        chunk.length ≤ (server.sessions index).recvQ.getFreeSize)) &&
      (server.deliver env index chunk).all (admissible rest)

structure Listening (server : Server) : Prop where
  valid : (server.sessions index).valid = true
  sound : (server.sessions index).recvQ.Sound
  allocated : (server.sessions index).recvQ.buffer.isSome
  capacity : (server.sessions index).recvQ.capacity = 65536
  waits : env.header.framer.classify (server.sessions index).recvQ.contents = .wait
  armed : (server.sessions index).recvOverlapped = ⟨(server.sessions index).sessionId, .recv⟩
  posted : ∃ request, server.outstanding.filter (isReceive index) = [request] ∧
    (server.sessions index).socket = some request.socket ∧
    request.segments = recvBuffers (server.sessions index).recvQ

structure Silent (server : Server) : Prop where
  invalid : (server.sessions index).valid = false
  none : server.outstanding.filter (isReceive index) = []

-- What a session's stream has made of the event queue so far.
def streamEvents (sessionId : SessionId) (parse : Parse UInt8) : List NetworkEvent :=
  parse.frames.map (⟨.received, sessionId, ·⟩) ++
    match parse.ending with
    | .residue _ => []
    | .rejected => [⟨.disconnected, sessionId, []⟩]

structure Follows (sessionId : SessionId) (before : List NetworkEvent) (server : Server)
    (parse : Parse UInt8) : Prop where
  events : server.eventQueue = before ++ streamEvents sessionId parse
  same : (server.sessions index).sessionId = sessionId
  listening : ∀ rest, parse.ending = .residue rest →
    Listening env index server ∧ (server.sessions index).recvQ.contents = rest
  silent : parse.ending = .rejected → Silent index server

variable {env index}

theorem step_receive {server : Server} {position : Nat} {request : IORequest} {bytes : List UInt8}
    (item : server.outstanding[position]? = some request) (receive : request.operation = .recv)
    (fits : bytes.length ≤ total request.segments) :
    server.step env (.receive position bytes) =
      some ((server.modify request.index fun session =>
        { session with recvQ := fill session.recvQ request.segments bytes }).complete position
          ⟨request, true, bytes.length⟩) := by
  simp [step, item, receive, fits, guard]

-- The state in which a worker enters ParsePackets with a chunk.
def received (server : Server) (index : Index) (position : Nat) (chunk : List UInt8) : Server :=
  { server.modify index (CSession.storeRecvQ ((server.sessions index).recvQ.enqueued chunk)) with
    outstanding := server.outstanding.eraseIdx position }

theorem deliver_eq {server : Server} (listening : Listening env index server) {chunk : List UInt8}
    (some : chunk ≠ []) (room : chunk.length ≤ (server.sessions index).recvQ.getFreeSize) :
    ∃ position, (server.outstanding.eraseIdx position).filter (isReceive index) = [] ∧
      server.deliver env index chunk =
        Option.some (((server.received index position chunk).parsePackets env index).postRecv env
          index) := by
  obtain ⟨request, single, opened, segments⟩ := listening.posted
  obtain ⟨position, found, item, erased⟩ := filter_eraseIdx single
  have kind : request.index = index ∧ request.operation = .recv := by
    have member : request ∈ server.outstanding.filter (isReceive index) := by simp [single]
    simpa [isReceive] using (List.mem_filter.mp member).2
  obtain ⟨rfl, receive⟩ := kind
  refine ⟨position, erased, ?_⟩
  have narrow : (server.sessions request.index).recvQ.capacity ≤ 2 ^ 32 := by
    rw [listening.capacity]; decide
  have fits : chunk.length ≤ total request.segments := by
    rw [segments, recvBuffers_total listening.sound narrow]
    exact room
  let completed := (server.modify request.index fun session =>
    { session with recvQ := fill session.recvQ request.segments chunk }).complete position
      ⟨request, true, chunk.length⟩
  have queued : completed.completions[server.completions.length]? =
      Option.some ⟨request, true, chunk.length⟩ := by
    simp [completed, complete, modify]
  have dispatched : (completed.dequeueCompletion server.completions.length).dispatch
      ⟨request, true, chunk.length⟩ = .processRecv := by
    simp [dispatch, completed, complete, dequeueCompletion, CSession.overlapped, receive,
      listening.valid, listening.armed, some]
  have moved := fill_moveWritePtr listening.sound narrow listening.allocated some room
  have delivered : server.deliver env request.index chunk =
      completed.step env (.worker server.completions.length) := by
    simp [deliver, found, execute, step_receive item receive fits, completed]
  rw [delivered, step_worker queued]
  simp only [workerThread, dispatched]
  simp [processRecv, received, completed, complete, dequeueCompletion, modify, segments, moved,
    some, CSession.storeRecvQ, List.eraseIdx_append_of_length_le]

theorem postRecv_listens (accepts : ∀ call, env.accepts call = true) {server : Server}
    {socket : Socket} (valid : (server.sessions index).valid = true)
    (opened : (server.sessions index).socket = some socket)
    (sound : (server.sessions index).recvQ.Sound)
    (allocated : (server.sessions index).recvQ.buffer.isSome)
    (capacity : (server.sessions index).recvQ.capacity = 65536)
    (waits : env.header.framer.classify (server.sessions index).recvQ.contents = .wait)
    (idle : server.outstanding.filter (isReceive index) = []) :
    Listening env index (server.postRecv env index) ∧
      (server.postRecv env index).eventQueue = server.eventQueue ∧
      ((server.postRecv env index).sessions index).sessionId =
        (server.sessions index).sessionId ∧
      ((server.postRecv env index).sessions index).recvQ = (server.sessions index).recvQ := by
  have short := framer_wait_short waits
  have free := sound.freeSize_eq
  have direct := directWriteSize_eq sound
  have inside := sound.writeInside
  rw [contents_length] at short
  have buffers : (recvBuffers (server.sessions index).recvQ).isEmpty = false := by
    have posted : (server.sessions index).recvQ.getDirectWriteSize > 0 := by omega
    simp [recvBuffers, posted]
  let armed := server.modify index CSession.armRecv
  let request : IORequest := ⟨index, .recv, socket, recvBuffers (server.sessions index).recvQ,
    (server.sessions index).incarnation⟩
  have posted : server.postRecv env index =
      { armed with calls := armed.calls + 1, outstanding := server.outstanding ++ [request] } := by
    simp [postRecv, post, armed, request, valid, buffers, accepts, opened, modify,
      CSession.armRecv]
  have after : ((server.postRecv env index).sessions index) =
      (server.sessions index).armRecv := by
    simp [posted, armed]
  refine ⟨?_, by simp [posted, armed, modify], by simp [after, CSession.armRecv],
    by simp [after, CSession.armRecv]⟩
  constructor <;> simp only [after, CSession.armRecv]
  · exact valid
  · exact sound
  · exact allocated
  · exact capacity
  · exact waits
  · exact ⟨request, by simp [posted, idle, isReceive, request], opened, rfl⟩

theorem disconnectSessionInternal_silences (mode : env.architectureType = .centralized)
    {server : Server} (valid : (server.sessions index).valid = true)
    (idle : server.outstanding.filter (isReceive index) = []) :
    Silent index (server.disconnectSessionInternal env index).1 ∧
      (server.disconnectSessionInternal env index).1.eventQueue =
        server.eventQueue ++ [⟨.disconnected, (server.sessions index).sessionId, []⟩] ∧
      ((server.disconnectSessionInternal env index).1.sessions index).sessionId =
        (server.sessions index).sessionId := by
  have closed : ∀ server : Server, server.outstanding.filter (isReceive index) = [] →
      (server.close index).outstanding.filter (isReceive index) = [] ∧
        (server.close index).eventQueue = server.eventQueue ∧
        ((server.close index).sessions index).sessionId = (server.sessions index).sessionId := by
    intro server idle
    simp only [close]
    split
    · next socket _ =>
      have kept : (server.outstanding.filter fun request => request.socket ≠ socket).filter
          (isReceive index) = [] := by
        rw [List.filter_comm, idle]
        rfl
      exact ⟨kept, rfl, by simp [closesocket]⟩
    · exact ⟨idle, rfl, rfl⟩
  obtain ⟨none, events, same⟩ := closed (server.modify index (CSession.storeValid false)) idle
  refine ⟨⟨disconnectSessionInternal_clears env server index, ?_⟩, ?_, ?_⟩ <;>
    simp only [disconnectSessionInternal, valid, if_true, announceDisconnect, mode,
      pushNetworkEvent, pushPending]
  · exact none
  · simp [CSession.storeSending, same, CSession.storeValid]
    exact events
  · simp [CSession.storeSending, same, CSession.storeValid]

theorem deliver_follows (mode : env.architectureType = .centralized)
    (accepts : ∀ call, env.accepts call = true) {sessionId : SessionId}
    {before : List NetworkEvent} {server : Server} {parse : Parse UInt8}
    (follows : Follows env index sessionId before server parse) {chunk : List UInt8}
    (some : chunk ≠ []) (room : (server.sessions index).valid = true →
      chunk.length ≤ (server.sessions index).recvQ.getFreeSize) :
    ∃ next, server.deliver env index chunk = Option.some next ∧
      Follows env index sessionId before next (env.header.framer.feed parse chunk) := by
  obtain ⟨events, same, listening, silent⟩ := follows
  cases ending : parse.ending with
  | rejected =>
    have quiet := silent ending
    have none : server.outstanding.findIdx? (isReceive index) = none := by
      simpa [List.findIdx?_eq_none_iff, List.filter_eq_nil_iff] using quiet.none
    refine ⟨server, by simp [deliver, none], ?_⟩
    simp only [Framer.feed, ending]
    exact ⟨events, same, listening, silent⟩
  | residue rest =>
    obtain ⟨listens, rfl⟩ := listening rest ending
    obtain ⟨position, idle, delivered⟩ := deliver_eq listens some (room listens.valid)
    obtain ⟨kept, size, contents⟩ := listens.sound.enqueued_spec (room listens.valid)
    let entered := server.received index position chunk
    have session : entered.sessions index =
        (server.sessions index).storeRecvQ ((server.sessions index).recvQ.enqueued chunk) := by
      simp [entered, received]
    obtain ⟨ring, parses⟩ := parsePackets_parses mode entered index
      (by rw [session]; exact kept) (by rw [session]; rfl)
    obtain ⟨ringSound, ringAllocated, ringCapacity, stopped, rejected⟩ := parses
    rw [session] at ringCapacity stopped rejected
    simp only [CSession.storeRecvQ, contents] at ringCapacity stopped rejected
    obtain ⟨request, _, opened, _⟩ := listens.posted
    let moved := entered.parsed index ring
      (env.header.framer.parse ((server.sessions index).recvQ.contents ++ chunk)).frames
    have handed : moved.eventQueue = before ++ parse.frames.map (⟨.received, sessionId, ·⟩) ++
        (env.header.framer.parse ((server.sessions index).recvQ.contents ++ chunk)).frames.map
          (⟨.received, sessionId, ·⟩) := by
      have queue : entered.eventQueue = server.eventQueue := rfl
      simp [moved, parsed, queue, events, streamEvents, ending, session, CSession.storeRecvQ, same]
    have after : moved.sessions index = (server.sessions index).storeRecvQ ring := by
      simp [moved, parsed, session, CSession.storeRecvQ]
    have quiet : moved.outstanding.filter (isReceive index) = [] := idle
    refine ⟨_, delivered, ?_⟩
    simp only [Framer.feed, ending]
    cases later : (env.header.framer.parse
        ((server.sessions index).recvQ.contents ++ chunk)).ending with
    | residue rest =>
      obtain ⟨residue, stopped⟩ : ring.contents = rest ∧ entered.parsePackets env index = moved :=
        stopped rest later
      obtain ⟨listening, queue, id, kept⟩ := postRecv_listens accepts
        (show (moved.sessions index).valid = true by rw [after]; exact listens.valid)
        (show (moved.sessions index).socket = _ by rw [after]; exact opened)
        (by rw [after]; exact ringSound) (by rw [after]; exact ringAllocated)
        (by rw [after]; exact ringCapacity.trans listens.capacity)
        (by rw [after]; exact residue ▸ parse_residue_waits later) quiet
      rw [stopped]
      refine ⟨?_, ?_, ?_, by simp⟩
      · simp [queue, handed, streamEvents]
      · rw [id, after]; exact same
      · intro found ending
        cases ending
        exact ⟨listening, by rw [kept, after]; exact residue⟩
    | rejected =>
      obtain ⟨silence, queue, id⟩ := disconnectSessionInternal_silences mode
        (show (moved.sessions index).valid = true by rw [after]; exact listens.valid) quiet
      have unposted : (moved.disconnectSessionInternal env index).1.postRecv env index =
          (moved.disconnectSessionInternal env index).1 := by
        simp [postRecv, silence.invalid]
      have stopped : entered.parsePackets env index =
          (moved.disconnectSessionInternal env index).1 := rejected later
      rw [stopped, unposted]
      refine ⟨?_, ?_, by simp, fun _ => silence⟩
      · simp [queue, handed, streamEvents, after, CSession.storeRecvQ, same]
      · rw [id, after]; exact same

theorem chunks_follow (mode : env.architectureType = .centralized)
    (accepts : ∀ call, env.accepts call = true) {sessionId : SessionId}
    {before : List NetworkEvent} {chunks : List (List UInt8)} {server : Server}
    {parse : Parse UInt8} (follows : Follows env index sessionId before server parse)
    (cut : admissible env index chunks server = true) :
    ∃ final, chunks.foldlM (deliver env index) server = some final ∧
      Follows env index sessionId before final (chunks.foldl env.header.framer.feed parse) := by
  induction chunks generalizing server parse with
  | nil => exact ⟨server, rfl, follows⟩
  | cons chunk rest ih =>
    simp only [admissible, Bool.and_eq_true, decide_eq_true_eq] at cut
    obtain ⟨⟨some, room⟩, later⟩ := cut
    obtain ⟨next, delivered, moved⟩ := deliver_follows mode accepts follows some room
    rw [delivered] at later
    obtain ⟨final, run, followed⟩ := ih moved later
    exact ⟨final, by simpa [delivered] using run, followed⟩

/-- However a stream is cut, a listening session takes off the frames of the whole stream. -/
theorem receive_stream_parses (mode : env.architectureType = .centralized)
    (accepts : ∀ call, env.accepts call = true) {server : Server}
    (listening : Listening env index server)
    (empty : (server.sessions index).recvQ.contents = [])
    (chunks : List (List UInt8)) (cut : admissible env index chunks server = true) :
    ∃ final, chunks.foldlM (deliver env index) server = some final ∧
      final.eventQueue = server.eventQueue ++
        streamEvents (server.sessions index).sessionId (env.header.framer.parse chunks.flatten) ∧
      ((final.sessions index).valid = false ↔
        (env.header.framer.parse chunks.flatten).ending = .rejected) ∧
      (∀ rest, (env.header.framer.parse chunks.flatten).ending = .residue rest →
        (final.sessions index).recvQ.contents = rest) ∧
      ∀ frame ∈ (env.header.framer.parse chunks.flatten).frames,
        env.header.passesSizeChecks frame = true := by
  have start : env.header.framer.parse [] = ⟨[], .residue []⟩ :=
    parse_wait (empty ▸ listening.waits)
  have follows : Follows env index (server.sessions index).sessionId server.eventQueue server
      (env.header.framer.parse []) := by
    rw [start]
    refine ⟨by simp [streamEvents], rfl, ?_, nofun⟩
    intro rest ending
    cases ending
    exact ⟨listening, empty⟩
  obtain ⟨final, run, events, _, listens, silent⟩ := chunks_follow mode accepts follows cut
  rw [feed_chunks, List.nil_append] at events listens silent
  refine ⟨final, run, events, ⟨?_, fun ending => (silent ending).invalid⟩,
    fun rest ending => (listens rest ending).2, ?_⟩
  · intro invalid
    cases ending : (env.header.framer.parse chunks.flatten).ending with
    | rejected => rfl
    | residue rest => simp [(listens rest ending).1.valid] at invalid
  · apply parse_frames
    intro bytes length verdict
    obtain ⟨announced, long⟩ := framer_frame verdict
    simp only [HeaderLayout.passesSizeChecks, announced, Nat.not_lt.mpr long]
    simp

theorem processAccept_listens (mode : env.architectureType = .centralized)
    (accepts : ∀ call, env.accepts call = true) {server : Server} {rest : List Index}
    (free : server.availableIndices = index :: rest) (clientSocket : Socket)
    (sound : (server.sessions index).recvQ.Sound)
    (allocated : (server.sessions index).recvQ.buffer.isSome)
    (capacity : (server.sessions index).recvQ.capacity = 65536)
    (idle : server.outstanding.filter (isReceive index) = []) :
    Listening env index (server.processAccept env clientSocket true) ∧
      ((server.processAccept env clientSocket true).sessions index).recvQ.contents = [] := by
  obtain ⟨cleared, none⟩ := sound.clear_spec
  let sessionId := makeSessionId index (server.sessionIdCounter &&& sessionUniqueMask)
  let connected := ({ server with
    availableIndices := rest
    sessionIdCounter := server.sessionIdCounter + 1 }.modify index
      (CSession.initializeSession (some clientSocket) sessionId clientSocket)).announceConnect env
        sessionId
  have session : connected.sessions index = (server.sessions index).initializeSession
      (some clientSocket) sessionId clientSocket := by
    simp [connected, announceConnect, mode, pushNetworkEvent]
  have ring : (connected.sessions index).recvQ = (server.sessions index).recvQ.clear := by
    rw [session]; rfl
  have accepted : server.processAccept env clientSocket true = connected.postRecv env index := by
    simp only [processAccept, free, if_true, connected, sessionId]
  have waits : env.header.framer.classify [] = .wait := by
    have := env.header.holdsSize
    simp [HeaderLayout.framer, HeaderLayout.classify, show 0 < env.header.sizeofMsgHeader by omega]
  have outstanding : connected.outstanding = server.outstanding := by
    simp [connected, announceConnect, mode, pushNetworkEvent, modify]
  obtain ⟨listening, _, _, unchanged⟩ := postRecv_listens accepts
    (show (connected.sessions index).valid = true by rw [session]; rfl)
    (show (connected.sessions index).socket = some clientSocket by rw [session]; rfl)
    (by rw [ring]; exact cleared) (by rw [ring, clear_buffer]; exact allocated)
    (by rw [ring, clear_capacity]; exact capacity) (by rw [ring, none]; exact waits)
    (by rw [outstanding]; exact idle)
  rw [accepted, unchanged, ring]
  exact ⟨listening, none⟩

-- The header of a frame arrives in two pieces, and one chunk ends a frame and begins the next.
theorem receive_stream_parses_split_header :
    ∃ server final, [[5], [0, 234, 3, 7, 4, 0], [233]].foldlM (deliver oneSlot 0) server =
        some final ∧
      final.eventQueue = server.eventQueue ++ [⟨.received, 1, [5, 0, 234, 3, 7]⟩] ∧
      (final.sessions 0).recvQ.contents = [4, 0, 233] := by
  have sound : ((start oneSlot).sessions 0).recvQ.Sound :=
    (new_sound (oneSlot.recvMemory 0) (show 0 < 65536 by decide) (by decide)).clear_spec.1
  have mode : oneSlot.architectureType = .centralized := rfl
  have accepts : ∀ call, oneSlot.accepts call = true := fun _ => rfl
  obtain ⟨listening, empty⟩ := processAccept_listens mode accepts
    (show (start oneSlot).availableIndices = 0 :: [] from rfl) 1 sound rfl rfl rfl
  obtain ⟨final, run, events, _, rest, _⟩ := receive_stream_parses mode accepts
    listening empty [[5], [0, 234, 3, 7, 4, 0], [233]] (by decide +kernel)
  have parse : oneSlot.header.framer.parse [[5], [0, 234, 3, 7, 4, 0], [233]].flatten =
      ⟨[[5, 0, 234, 3, 7]], .residue [4, 0, 233]⟩ := by
    rw [parse_frame (show _ = Verdict.frame 5 by decide), parse_wait (by decide)]
    rfl
  rw [parse] at events rest
  exact ⟨_, final, run, events, rest _ rfl⟩

end Server

end MiniGames
