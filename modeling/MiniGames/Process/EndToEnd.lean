import MiniGames.Process.Transport

set_option autoImplicit false

namespace MiniGames

open Circular Framing Runs CCentralizedServer

theorem CRoomManager.Consistent.roomList_length {Player : Type} [DecidableEq Player]
    {manager : CRoomManager Player} (consistent : manager.Consistent) :
    manager.roomList.length ≤ manager.allocated := by
  have distinct : manager.roomList.Nodup := consistent.newest.imp fun newer => Nat.ne_of_gt newer
  have inside : manager.roomList ⊆ List.range manager.allocated := fun ptr member =>
    List.mem_range.mpr (consistent.made ptr member)
  simpa using (distinct.subperm inside).length_le

namespace CCentralizedServer

theorem handleRequest_sizes (stale : Stale) (server : CCentralizedServer) (player : CPlayer)
    (data : List UInt8) : ∀ sent ∈ (handleRequest stale server player data).2,
      sent.2 = .roomList (server.roomManager.listed.map roomInfo) ∨ sent.2.size ≤ 260 := by
  have created : sizeofRoomCreated ≤ 260 := by decide
  have joined : sizeofRoomJoined ≤ 260 := by decide
  have left : sizeofRoomLeft ≤ 260 := by decide
  have failed : sizeofError ≤ 260 := by decide
  intro sent member
  simp only [handleRequest] at member
  split at member
  · rw [List.mem_singleton.mp member]
    exact .inl rfl
  · rcases handleCreateRoom_cases stale server player data with
      ⟨_, _, handled⟩ | ⟨_, _, handled⟩
    · rw [handled] at member
      rcases List.mem_cons.mp member with rfl | more
      · exact .inr created
      · split at more
        · cases more
        · rw [List.mem_singleton.mp more]
          exact .inr failed
    · rw [handled] at member
      rcases List.mem_cons.mp member with rfl | more
      · exact .inr created
      · rw [List.mem_singleton.mp more]
        exact .inr failed
  · simp only [handleJoinRoom] at member
    rcases List.mem_cons.mp member with rfl | more
    · exact .inr joined
    · split at more
      · cases more
      · rw [List.mem_singleton.mp more]
        exact .inr failed
  · rw [List.mem_singleton.mp member]
    exact .inr left
  · cases member

theorem dispatch_sizes (stale : Stale) (server : CCentralizedServer) (event : NetworkEvent) :
    ∀ sent ∈ (dispatch stale server event).2,
      sent.2 = .roomList (server.roomManager.listed.map roomInfo) ∨ sent.2.size ≤ 260 := by
  intro sent member
  simp only [dispatch] at member
  split at member
  · rw [List.mem_singleton.mp member]
    exact .inl rfl
  · cases member
  · simp only [dispatchDataReceived] at member
    split at member
    · cases member
    · exact handleRequest_sizes _ _ _ _ sent member

theorem dispatch_small (stale : Stale) {server : CCentralizedServer}
    (consistent : server.roomManager.Consistent) (few : server.roomManager.allocated < 2 ^ 25)
    (event : NetworkEvent) : ∀ sent ∈ (dispatch stale server event).2, sent.2.size < 2 ^ 32 := by
  intro sent member
  rcases dispatch_sizes stale server event sent member with list | short
  · have rooms := consistent.roomList_length
    simp only [list, ServerMessage.size, List.length_map, CRoomManager.listed, sizeofRoomList,
      sizeofRoomInfo]
    omega
  · omega

end CCentralizedServer

namespace Client

open SessionState

theorem request_framed {env : Environment} (mode : env.architectureType = .centralized)
    (layout : env.header.sizeofMsgHeader ≤ 4) (message : ClientMessage) :
    env.framer.classify message.encode = .frame message.encode.length := by
  have stated : headerSize message.encode = message.encode.length := by
    rw [message.encode_length, ClientMessage.encode, headerSize_header,
      Nat.mod_eq_of_lt message.size_lt]
  have whole : 4 ≤ message.encode.length := by
    simp only [ClientMessage.encode, List.length_append, header_length]
    omega
  have present : ¬ message.encode.length < env.header.sizeofMsgHeader := by omega
  rw [Environment.framer_centralized mode]
  simp only [HeaderLayout.framer, HeaderLayout.classify, stated, present, if_false, Nat.lt_irrefl]

theorem reply_headerSize {message : ServerMessage} (short : message.encode.length ≤ 65535)
    (more : List UInt8) : headerSize (message.encode ++ more) = message.encode.length := by
  have size : message.size < 2 ^ 16 := by
    rw [← message.encode_length]
    omega
  have whole : 2 ≤ message.encode.length := by
    simp only [ServerMessage.encode, List.length_append, header_length]
    omega
  rw [headerSize_append more whole, message.encode_length, ServerMessage.encode, headerSize_header,
    Nat.mod_eq_of_lt size]

theorem addressed_encoded {sessionId : SessionId} {sent : List Sent} {bytes : List UInt8}
    (member : bytes ∈ Dialogue.addressed sessionId sent) :
    ∃ message : ServerMessage, bytes = message.encode := by
  obtain ⟨reply, _, rfl⟩ := List.mem_map.mp member
  exact ⟨reply.2, rfl⟩

namespace Conversation

variable {env : Environment} {Thread : Type} {gameThread : Thread} {sessionId : SessionId}

-- What the client has sent is well-formed requests, and Winsock has received a part of it.
structure Wired (sessionId : SessionId) (conversation : Conversation Thread) : Prop where
  named : conversation.network.session.sessionId = sessionId
  asked : ∀ request ∈ conversation.asked, ∃ message : ClientMessage, request = message.encode
  received : conversation.network.received <+: conversation.asked.flatten

variable {conversation : Conversation Thread}

theorem Wired.framed (wired : Wired sessionId conversation)
    (mode : env.architectureType = .centralized) (layout : env.header.sizeofMsgHeader ≤ 4) :
    (env.framer.parse conversation.asked.flatten).frames = conversation.asked := by
  have whole : ∀ request ∈ conversation.asked, env.framer.classify request =
      .frame request.length := by
    intro request member
    obtain ⟨message, rfl⟩ := wired.asked request member
    exact request_framed mode layout message
  have parsed := parse_frames_append whole []
  rw [List.append_nil] at parsed
  rw [parsed, Parse.after, parse_nil_frames, List.append_nil]

theorem Wired.taken (wired : Wired sessionId conversation)
    (receiving : Receiving env conversation.network)
    (mode : env.architectureType = .centralized) (layout : env.header.sizeofMsgHeader ≤ 4) :
    conversation.network.taken <+: conversation.asked := by
  obtain ⟨rest, streams⟩ := receiving.streams
  obtain ⟨more, arrived⟩ := wired.received
  have grows : (env.framer.parse conversation.network.received).frames <+:
      (env.framer.parse (conversation.network.received ++ more)).frames :=
    parse_frames_grow _ more
  rw [arrived, wired.framed mode layout, streams] at grows
  exact (List.prefix_append _ _).trans grows

namespace Simulates

variable {dialogue : Dialogue} (simulates : Simulates sessionId gameThread conversation dialogue)

include simulates

theorem handled {event : NetworkEvent} {rest : List NetworkEvent} {stale : Stale} {next : Dialogue}
    (settled : conversation.sending = [])
    (small : ∀ sent ∈ (dispatch stale conversation.game event).2, sent.2.size < 2 ^ 32)
    (server : next.server = (dispatch stale conversation.game event).1)
    (room : next.room = dialogue.room)
    (replies : next.replies.map Prod.fst = dialogue.replies.map Prod.fst ++
      Dialogue.addressed sessionId (dispatch stale conversation.game event).2)
    (requests : ∃ served packets, conversation.asked = served ++ next.requests ∧
      conversation.network.taken = served ++ packets ++ inHand conversation.network ∧
      own sessionId rest =
        opening sessionId next.connected ++ packets.map (packetEvent sessionId)) :
    Simulates sessionId gameThread { conversation with
      eventQueue := rest
      game := (dispatch stale conversation.game event).1
      sending := (dispatch stale conversation.game event).2 } next := by
  constructor
  case server => exact server
  case room => exact room.trans simulates.room
  case requests => exact requests
  case replies =>
    obtain ⟨hand, holds, same⟩ := simulates.replies
    have nothing : Dialogue.addressed sessionId ([] : List Sent) = [] := rfl
    rw [settled, nothing, List.append_nil] at same
    exact ⟨hand, holds, by rw [replies, same, List.append_assoc]⟩
  case messages =>
    intro reply member
    have listed := List.mem_map_of_mem (f := Prod.fst) member
    rw [replies] at listed
    rcases List.mem_append.mp listed with old | new
    · obtain ⟨before, inside, same⟩ := List.mem_map.mp old
      rw [← same]
      exact simulates.messages before inside
    · exact addressed_encoded new
  case small => exact small
  case quiet => exact simulates.quiet

theorem pop {event : NetworkEvent} {rest : List NetworkEvent}
    (asked : conversation.network.taken <+: conversation.asked)
    (settled : conversation.sending = []) (first : conversation.eventQueue = event :: rest)
    (stale : Stale)
    (small : ∀ sent ∈ (dispatch stale conversation.game event).2, sent.2.size < 2 ^ 32) :
    ∃ action next, dialogue.step sessionId action = some next ∧
      Simulates sessionId gameThread { conversation with
        eventQueue := rest
        game := (dispatch stale conversation.game event).1
        sending := (dispatch stale conversation.game event).2 } next := by
  obtain ⟨served, packets, parts, split, events⟩ := simulates.requests
  have server := simulates.server
  by_cases other : event.sessionId ≠ sessionId
  · refine ⟨.other event stale, _, if_neg other, simulates.handled settled small ?_ rfl ?_ ?_⟩
    · simp only [server]
    · simp only [List.map_append, Dialogue.untagged_messages, server]
    · rw [first] at events
      have foreign : own sessionId (event :: rest) = own sessionId rest := by simp [own, other]
      exact ⟨served, packets, parts, split, foreign ▸ events⟩
  · have ours : event.sessionId = sessionId := of_not_not other
    have head : own sessionId (event :: rest) = event :: own sessionId rest := by
      simp [own, ours]
    rw [first, head] at events
    cases connected : dialogue.connected with
    | false =>
      rw [connected] at events
      obtain ⟨rfl, later⟩ := List.cons.inj events
      refine ⟨.connect stale, _, if_neg (by simp [connected]),
        simulates.handled settled small ?_ rfl ?_ ⟨served, packets, parts, split, later⟩⟩
      · simp only [server]
      · simp only [List.map_append, Dialogue.untagged_messages, server]
    | true =>
      rw [connected] at events
      cases packets with
      | nil => cases events
      | cons packet packets =>
        obtain ⟨rfl, later⟩ := List.cons.inj events
        -- The packet is the first request that was not served.
        obtain ⟨more, waiting⟩ : ∃ more, dialogue.requests = packet :: more := by
          rw [split, parts, List.append_assoc, List.prefix_append_right_inj] at asked
          obtain ⟨more, same⟩ := asked
          exact ⟨_, same.symm⟩
        let popped := dispatch stale dialogue.server (packetEvent sessionId packet)
        have stepped : dialogue.step sessionId (.serve stale) = some { dialogue with
            server := popped.1
            requests := more
            replies := dialogue.replies ++ Dialogue.tagLast (serverView popped.1 sessionId)
              (Dialogue.addressed sessionId popped.2) } := by
          simp only [Dialogue.step, connected, waiting, popped, packetEvent]
        refine ⟨.serve stale, _, stepped, simulates.handled settled small ?_ rfl ?_
          ⟨served ++ [packet], packets, ?_, ?_, ?_⟩⟩
        · simp only [popped, server]
        · simp only [List.map_append, Dialogue.tagLast_messages, popped, server]
        · simp [parts, waiting]
        · simp [split]
        · simp only [connected]
          exact later

theorem front (sending : Sending conversation.network)
    (whole : sizeofMsgHeader ≤ headerSize conversation.unread)
    (present : headerSize conversation.unread ≤ conversation.unread.length) :
    ∃ message tag rest, dialogue.replies = (message, tag) :: rest ∧
      conversation.unread.take (headerSize conversation.unread) = message := by
  obtain ⟨hand, _, same⟩ := simulates.replies
  obtain ⟨placement, intact⟩ := sending.intact
  have some : 4 ≤ conversation.unread.length := Nat.le_trans whole present
  have enqueued : conversation.network.send.enqueued <+:
      conversation.read ++ dialogue.replies.map Prod.fst := by
    rw [← same, List.append_assoc]
    exact List.prefix_append _ _
  have sent := intact.transmitted_prefix.trans enqueued.flatten
  have stream : conversation.unread <+: (dialogue.replies.map Prod.fst).flatten := by
    have rest := sent.drop conversation.read.flatten.length
    rwa [List.flatten_append, List.drop_left] at rest
  cases replies : dialogue.replies with
  | nil =>
    have none := stream.length_le
    simp only [replies, List.map_nil, List.flatten_nil, List.length_nil] at none
    omega
  | cons reply rest =>
    obtain ⟨message, tag⟩ := reply
    refine ⟨message, tag, rest, rfl, ?_⟩
    obtain ⟨encoded, same⟩ := simulates.messages (message, tag) (by
      rw [replies]
      exact List.mem_cons_self)
    simp only at same
    subst same
    rw [replies, List.map_cons] at enqueued stream
    -- A message of which something has arrived was enqueued as a whole.
    have taken : encoded.encode ∈ conversation.network.send.enqueued := by
      have more : conversation.read.length < conversation.network.send.enqueued.length := by
        by_contra few
        have before := (List.prefix_of_prefix_length_le enqueued (List.prefix_append _ _)
          (Nat.le_of_not_lt few)).flatten.length_le
        have sent := intact.transmitted_prefix.length_le
        simp only [unread, List.length_drop] at some
        omega
      have inside : conversation.read ++ [encoded.encode] <+:
          conversation.network.send.enqueued := by
        refine List.prefix_of_prefix_length_le ⟨rest.map Prod.fst, by simp⟩ enqueued ?_
        rw [List.length_append]
        exact more
      exact inside.subset (by simp)
    have short := sending.short _ taken
    obtain ⟨tail, arrived⟩ := stream
    have size : headerSize conversation.unread = encoded.encode.length := by
      rw [← headerSize_append tail (by omega), arrived, List.flatten_cons, reply_headerSize short]
    rw [size] at present ⊢
    have first := congrArg (List.take encoded.encode.length) arrived
    rwa [List.take_append_of_le_length present, List.flatten_cons, List.take_left] at first

theorem recv (sending : Sending conversation.network) {length : Nat}
    (whole : conversation.WholeMessages (.recv length))
    (present : length ≤ conversation.unread.length) :
    ∃ action next, dialogue.step sessionId action = some next ∧
      Simulates sessionId gameThread { conversation with
        room := receive conversation.room (conversation.unread.take length)
        read := conversation.read ++ [conversation.unread.take length] } next := by
  obtain ⟨header, rfl⟩ := whole
  obtain ⟨message, tag, rest, replies, front⟩ := simulates.front sending header present
  obtain ⟨hand, holds, same⟩ := simulates.replies
  have stepped : dialogue.step sessionId .deliver = some { dialogue with
      room := receive dialogue.room message
      replies := rest
      acknowledged := tag.getD dialogue.acknowledged } := by
    simp only [Dialogue.step, replies]
  refine ⟨.deliver, _, stepped, ?_⟩
  rw [front]
  refine { simulates with
    room := ?_
    replies := ⟨hand, holds, ?_⟩
    messages := fun reply member => simulates.messages reply ?_ }
  · simp only [simulates.room]
  · simp [same, replies]
  · rw [replies]
    exact List.mem_cons_of_mem _ member

end Simulates

section Runs

variable [DecidableEq Thread]

theorem takes_received {network next : SessionState Thread} {action : SessionAction Thread}
    (takes : Takes env network action next) : next.received = network.received ∨
      ∃ bytes, action = .receive bytes ∧ next.received = network.received ++ bytes := by
  cases takes with
  | receive segments bytes posted => exact .inr ⟨bytes, rfl, rfl⟩
  | call | run | sent | invalidate | clearSending => exact .inl rfl
  | worker thread size completed free =>
    refine .inl ?_
    simp only [SessionState.dispatch]
    split
    · rfl
    split
    · rfl
    split
    · rfl
    split <;> rfl
  | statement thread pc accepted handled idle =>
    refine .inl ?_
    cases pc with
    | moveWritePtr size | parse | deliver bytes | wsaRecv =>
      simp only [receiveTurn]
      split <;> rfl
    | postRecv => rfl

variable {next : Conversation Thread} {action : ConversationAction Thread}

theorem Proceeds.moves (proceeds : Proceeds env sessionId gameThread conversation action next) :
    next.network = conversation.network ∨
      ∃ action, conversation.network.step env action = some next.network := by
  cases proceeds with
  | network action network permitted taken => exact .inr ⟨action, taken⟩
  | send message rest first network free taken => exact .inr ⟨_, taken⟩
  | event | disconnected | pop | skip | ask | recv => exact .inl rfl

theorem Proceeds.allocated_le
    (proceeds : Proceeds env sessionId gameThread conversation action next) :
    conversation.game.roomManager.allocated ≤ next.game.roomManager.allocated := by
  cases proceeds with
  | pop stale event rest settled first => exact (dispatch_turn stale _ event).allocated_le
  | network | event | disconnected | send | skip | ask | recv => exact Nat.le_refl _

theorem Wired.proceeds (wired : Wired sessionId conversation)
    (proceeds : Proceeds env sessionId gameThread conversation action next) :
    Wired sessionId next := by
  cases proceeds with
  | network action network permitted taken =>
    refine ⟨(step_moves taken).sessionId.trans wired.named, wired.asked, ?_⟩
    rcases takes_received (step_takes taken) with same | ⟨bytes, rfl, more⟩
    · simp only [same]
      exact wired.received
    · simp only [more]
      exact List.isPrefixOf_iff_prefix.mp permitted
  | send message rest first network free taken =>
    refine ⟨(step_moves taken).sessionId.trans wired.named, wired.asked, ?_⟩
    rcases takes_received (step_takes taken) with same | ⟨bytes, called, _⟩
    · simp only [same]
      exact wired.received
    · cases called
  | ask _ _ request asks =>
    refine ⟨wired.named, ?_, ?_⟩
    · intro bytes member
      rcases List.mem_append.mp member with old | new
      · exact wired.asked bytes old
      · exact ⟨request.2, List.mem_singleton.mp new⟩
    · simp only [Conversation.ask, List.flatten_append]
      exact wired.received.trans (List.prefix_append _ _)
  | event | disconnected | pop | skip | recv => exact ⟨wired.named, wired.asked, wired.received⟩

/-- The session is connected, no thread is about to disconnect it, and the list of the rooms has a
size that fits 32 bits. -/
structure Alive (conversation : Conversation Thread) : Prop where
  stays : ∀ thread, ¬ conversation.network.Leaves thread
  few : conversation.game.roomManager.allocated < 2 ^ 25

omit [DecidableEq Thread] in
theorem Alive.valid (alive : Alive conversation) (thread : Thread) :
    conversation.network.session.valid = true := by
  by_contra invalid
  exact alive.stays thread (.inl (by simpa using invalid))

theorem Alive.before (proceeds : Proceeds env sessionId gameThread conversation action next)
    (alive : Alive next) : Alive conversation := by
  refine ⟨fun thread leaves => alive.stays thread ?_,
    Nat.lt_of_le_of_lt proceeds.allocated_le alive.few⟩
  rcases proceeds.moves with same | ⟨action, taken⟩
  · exact same.symm ▸ leaves
  · exact (step_moves taken).leaves leaves

variable {recvMemory sendMemory : Option (Nat → UInt8)} {socket : Socket} {acceptThread : Thread}
  {earlier : List NetworkEvent}

omit [DecidableEq Thread] in
theorem start_simulates (others : ∀ event ∈ earlier, event.sessionId ≠ sessionId) :
    Simulates sessionId gameThread
      (start (.start recvMemory sendMemory sessionId socket acceptThread) sessionId earlier)
      Dialogue.start := by
  constructor
  case server => rfl
  case room => rfl
  case requests =>
    refine ⟨[], [], rfl, rfl, ?_⟩
    have foreign : own sessionId earlier = [] := by
      rw [own, List.filter_eq_nil_iff]
      intro event member
      simpa using others event member
    have ours : own sessionId [⟨.connected, sessionId, []⟩] = [⟨.connected, sessionId, []⟩] := by
      simp [own]
    simp only [start, own_append, foreign, ours]
    rfl
  case replies => exact ⟨[], .nothing rfl, rfl⟩
  case messages => exact fun _ member => absurd member List.not_mem_nil
  case small => exact fun _ member => absurd member List.not_mem_nil
  case quiet => exact fun _ _ => rfl

omit [DecidableEq Thread] in
theorem start_wired : Wired sessionId
    (start (.start recvMemory sendMemory sessionId socket acceptThread) sessionId earlier) :=
  ⟨rfl, fun _ member => absurd member List.not_mem_nil, List.nil_prefix⟩

theorem reachable_network {allowed : Conversation Thread → ConversationAction Thread → Prop}
    (reached : Reachable (step env sessionId gameThread) allowed
      (start (.start recvMemory sendMemory sessionId socket acceptThread) sessionId earlier)
      conversation) :
    Reachable (SessionState.step env) Always
      (.start recvMemory sendMemory sessionId socket acceptThread) conversation.network := by
  induction reached with
  | start => exact .start
  | step _ _ taken ih =>
    rcases (step_proceeds taken).moves with same | ⟨action, moved⟩
    · exact same.symm ▸ ih
    · exact .step ih trivial moved

theorem reachable_wired {allowed : Conversation Thread → ConversationAction Thread → Prop}
    (reached : Reachable (step env sessionId gameThread) allowed
      (start (.start recvMemory sendMemory sessionId socket acceptThread) sessionId earlier)
      conversation) : Wired sessionId conversation := by
  induction reached with
  | start => exact start_wired
  | step _ _ taken ih => exact ih.proceeds (step_proceeds taken)

theorem Simulates.proceeds {dialogue : Dialogue}
    (simulates : Simulates sessionId gameThread conversation dialogue)
    (mode : env.architectureType = .centralized) (layout : env.header.sizeofMsgHeader ≤ 4)
    (wired : Wired sessionId conversation) (sending : Sending conversation.network)
    (receiving : Receiving env conversation.network)
    (consistent : conversation.game.roomManager.Consistent)
    (whole : conversation.WholeMessages action)
    (proceeds : Proceeds env sessionId gameThread conversation action next) (alive : Alive next) :
    Simulates sessionId gameThread next dialogue ∨ ∃ action later,
      dialogue.step sessionId action = some later ∧
        Simulates sessionId gameThread next later := by
  have before := Alive.before proceeds alive
  cases proceeds with
  | network action network permitted taken =>
    exact .inl (simulates.network mode wired.named sending (before.valid gameThread) permitted taken
      alive.stays)
  | event event other => exact .inl (simulates.event other)
  | disconnected invalid =>
    rw [before.valid gameThread] at invalid
    cases invalid
  | pop stale event rest settled first =>
    have small := dispatch_small stale consistent before.few event
    exact .inr (simulates.pop (wired.taken receiving mode layout) settled first stale small)
  | send message rest first network free taken =>
    obtain ⟨_, _, called⟩ := Option.bind_eq_some_iff.mp taken
    cases called
    exact .inl (simulates.send first free)
  | skip recipient message rest first other => exact .inl (simulates.skip first other)
  | ask _ asked request asks =>
    exact .inr ⟨asked, _, asks dialogue simulates.room, simulates.ask request⟩
  | recv length present => exact .inr (simulates.recv sending whole present)

/-- As long as the session is connected, what the client and the game thread do over it they could
do over two channels of whole messages. -/
theorem reachable_simulates (mode : env.architectureType = .centralized)
    (layout : env.header.sizeofMsgHeader ≤ 4)
    (others : ∀ event ∈ earlier, event.sessionId ≠ sessionId)
    (reached : Reachable (step env sessionId gameThread) WholeMessages
      (start (.start recvMemory sendMemory sessionId socket acceptThread) sessionId earlier)
      conversation) (alive : Alive conversation) :
    ∃ dialogue, Reachable (Dialogue.step sessionId) Always Dialogue.start dialogue ∧
      Simulates sessionId gameThread conversation dialogue := by
  refine reached.refines Alive (Simulates sessionId gameThread) ?_ (start_simulates others) ?_ alive
  · intro state action next _ taken ended
    exact Alive.before (step_proceeds taken) ended
  · intro state dialogue action next reached spoken simulates whole taken ended
    have before := Alive.before (step_proceeds taken) ended
    have network := reachable_network reached
    have few : dialogue.server.roomManager.allocated < 2 ^ 31 := by
      rw [simulates.server]
      exact Nat.lt_trans before.few (by decide)
    have rooted := (Dialogue.reachable_agreeing spoken few).rooted
    exact simulates.proceeds mode layout (reachable_wired reached)
      (reachable_sending network (before.valid gameThread)) (reachable_receiving network)
      (simulates.server ▸ rooted.consistent) whole (step_proceeds taken) ended

omit [DecidableEq Thread] in
theorem Simulates.settled {dialogue : Dialogue}
    (simulates : Simulates sessionId gameThread conversation dialogue)
    (sending : Sending conversation.network) (handled : conversation.sending = [])
    (idle : conversation.network.send.threads gameThread = .idle)
    (sent : conversation.network.session.sendQ.contents = [])
    (read : conversation.unread = []) : dialogue.replies = [] := by
  obtain ⟨hand, holds, same⟩ := simulates.replies
  obtain ⟨placement, intact⟩ := sending.intact
  have carried := intact.drained sent
  rw [idle] at holds
  have none : Dialogue.addressed sessionId ([] : List Sent) = [] := rfl
  rw [holds.idle, handled, none, List.append_nil, List.append_nil] at same
  have arrived : conversation.network.send.transmitted.length ≤ conversation.read.flatten.length :=
    List.drop_eq_nil_iff.mp read
  rw [carried, same, List.flatten_append, List.length_append] at arrived
  have empty : (dialogue.replies.map Prod.fst).flatten = [] :=
    List.eq_nil_of_length_eq_zero (by omega)
  by_contra some
  obtain ⟨reply, rest, replies⟩ := List.exists_cons_of_ne_nil some
  obtain ⟨message, encoded⟩ := simulates.messages reply (by rw [replies]; exact List.mem_cons_self)
  have whole : 4 ≤ message.encode.length := by
    simp only [ServerMessage.encode, List.length_append, header_length]
    omega
  rw [replies, List.map_cons, List.flatten_cons, encoded] at empty
  have short := congrArg List.length empty
  rw [List.length_append, List.length_nil] at short
  omega

theorem alive_of_idle {Worker : Type} {conversation : Conversation Worker}
    (valid : conversation.network.session.valid = true)
    (idle : ∀ thread, conversation.network.send.threads thread = .idle)
    (few : conversation.game.roomManager.allocated < 2 ^ 25) : Alive conversation := by
  refine ⟨fun thread leaves => ?_, few⟩
  rcases leaves with invalid | leaving
  · rw [valid] at invalid
    cases invalid
  · rw [idle] at leaving
    cases leaving

/-- What the dialogue keeps of the conversation: the requests that the game thread has yet to pop
and the messages that the client has yet to read. -/
theorem conversation_refines (mode : env.architectureType = .centralized)
    (layout : env.header.sizeofMsgHeader ≤ 4)
    (others : ∀ event ∈ earlier, event.sessionId ≠ sessionId)
    (reached : Reachable (step env sessionId gameThread) WholeMessages
      (start (.start recvMemory sendMemory sessionId socket acceptThread) sessionId earlier)
      conversation) (alive : Alive conversation) :
    ∃ dialogue, Reachable (Dialogue.step sessionId) Always Dialogue.start dialogue ∧
      dialogue.server = conversation.game ∧ dialogue.room = conversation.room ∧
      (∃ served queued, conversation.asked = served ++ dialogue.requests ∧
        conversation.network.taken = served ++ queued ++ inHand conversation.network ∧
        queued ++ inHand conversation.network <+: dialogue.requests ∧
        own sessionId conversation.eventQueue =
          opening sessionId dialogue.connected ++ queued.map (packetEvent sessionId)) ∧
      ∃ hand, Holds (conversation.network.send.threads gameThread) hand ∧
        conversation.network.send.enqueued ++ hand ++
            Dialogue.addressed sessionId conversation.sending =
          conversation.read ++ dialogue.replies.map Prod.fst := by
  obtain ⟨dialogue, spoken, simulates⟩ := reachable_simulates mode layout others reached alive
  obtain ⟨served, queued, asked, taken, events⟩ := simulates.requests
  have among := (reachable_wired reached).taken
    (reachable_receiving (reachable_network reached)) mode layout
  rw [taken, asked, List.append_assoc, List.prefix_append_right_inj] at among
  exact ⟨dialogue, spoken, simulates.server, simulates.room,
    ⟨served, queued, asked, taken, among, events⟩, simulates.replies⟩

-- Another client is announced before this one.
def twoClients : Conversation (Fin 3) :=
  start (.start (some fun _ => 0) (some fun _ => 0) 1 1 0) 1 [⟨.connected, 2, []⟩]

-- Both are sent the list of the rooms, and this client's goes out.
def sendLists : List (ConversationAction (Fin 3)) :=
  let stale : Stale := .zeros 256
  [.network (.statement true), .network (.statement true), .popNetworkEvent stale, .requestSendMsg,
    .popNetworkEvent stale, .requestSendMsg] ++
  List.replicate 6 (.network (.run 2 true 0)) ++
  .network (.sent 1 0 8) :: List.replicate 6 (.network (.run 1 true 0))

-- The client has read the list of the rooms, and its request is in the event queue.
theorem conversation_refines_packet : ∃ (conversation : Conversation (Fin 3)) (dialogue : Dialogue)
    (request : List UInt8), own 1 conversation.eventQueue = [packetEvent 1 request] ∧
      conversation.read.length = 1 ∧ Reachable (Dialogue.step 1) Always Dialogue.start dialogue ∧
      dialogue.server = conversation.game ∧ dialogue.room = conversation.room ∧
      [request] <+: dialogue.requests := by
  let title : StaleTitle := .zeros 64
  let request := (CRoom.new.requestCreateRoom title [98] 2).2.encode
  obtain ⟨conversation, reached, seen⟩ := Reachable.observe
    (restrict (step Server.oneSlot 1 (2 : Fin 3)) WholeMessages) twoClients
    (sendLists ++ .recv 8 :: .requestCreateRoom title [98] 2 :: .network (.receive request) ::
      .network (.worker 1) :: List.replicate 6 (.network (.statement true)))
    (fun conversation => conversation.network.session.valid = true ∧
      (∀ thread, conversation.network.send.threads thread = .idle) ∧
      conversation.game.roomManager.allocated < 2 ^ 25 ∧
      own 1 conversation.eventQueue = [packetEvent 1 request] ∧ conversation.read.length = 1)
    (by decide +kernel)
  obtain ⟨valid, idle, few, waits, read⟩ := of_decide_eq_true seen
  obtain ⟨dialogue, spoken, server, room, ⟨_, queued, _, _, pending, events⟩, _⟩ :=
    conversation_refines rfl (by decide) (by decide) reached.unrestrict
      (alive_of_idle valid idle few)
  have front : [request] <+: queued := by
    cases connected : dialogue.connected with
    | false =>
      rw [waits, connected] at events
      cases events
    | true =>
      rw [waits, connected] at events
      obtain ⟨packet, rfl, same⟩ := List.map_eq_singleton_iff.mp events.symm
      cases same
      exact List.prefix_refl _
  exact ⟨conversation, dialogue, request, waits, read, spoken, server, room,
    front.trans ((List.prefix_append ..).trans pending)⟩

end Runs

end Conversation

end Client

end MiniGames
