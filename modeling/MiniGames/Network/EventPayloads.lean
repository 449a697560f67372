import MiniGames.Network.EventOrder
import MiniGames.Network.ReceiveStream

set_option autoImplicit false

namespace MiniGames

open Circular Runs Token Framing Logs CRingBufferT

def payloads (events : List NetworkEvent) (sessionId : SessionId) : List (List UInt8) :=
  events.filterMap fun event =>
    if event.type = .received ∧ event.sessionId = sessionId then some event.data else none

theorem payloads_append (events more : List NetworkEvent) (sessionId : SessionId) :
    payloads (events ++ more) sessionId = payloads events sessionId ++ payloads more sessionId :=
  List.filterMap_append

theorem payloads_received (sessionId other : SessionId) (bytes : List UInt8) :
    payloads [⟨.received, sessionId, bytes⟩] other = if sessionId = other then [bytes] else [] := by
  by_cases same : sessionId = other <;> simp [payloads, same]

theorem payloads_unheard {events : List NetworkEvent} {sessionId : SessionId}
    (unheard : ∀ event ∈ events, event.sessionId ≠ sessionId) : payloads events sessionId = [] := by
  rw [payloads, List.filterMap_eq_nil_iff]
  intro event member
  simp [unheard event member]

section Streams

variable (env : Environment) (server : Server) (history : History)

/-- The game layer was handed what the bytes of a socket parse to, but for `held` and what is in
`rest`. -/
def Streams (socket : Socket) (held : List (List UInt8)) (rest : List UInt8) : Prop :=
  env.header.framer.parse (history.received socket) =
    (env.header.framer.parse rest).after
      (payloads server.eventQueue (history.ids socket) ++ held)

def Filled (index : Index) (socket : Socket) (size : Nat) : Prop :=
  ∃ ring bytes, ring.Default ∧ bytes.length = size ∧ size ≤ ring.getFreeSize ∧
    (server.sessions index).recvQ = Server.fill ring (Server.recvBuffers ring) bytes ∧
    Streams env server history socket [] (ring.contents ++ bytes)

/-- How far a frame has brought the bytes of the socket it works for, while the slot is that
socket's. -/
def Frame.Tracks : Frame → Prop
  | .dispatch completion => completion.request.operation ≠ .send → completion.result = true →
      (server.sessions completion.request.index).incarnation = completion.request.incarnation →
      Filled env server history completion.request.index completion.request.incarnation
        completion.bytesTransferred
  | .checkId completion => completion.request.operation ≠ .send →
      (server.sessions completion.request.index).incarnation = completion.request.incarnation →
      Filled env server history completion.request.index completion.request.incarnation
        completion.bytesTransferred
  | .moveWritePtr index poster size => (server.sessions index).incarnation = poster →
      Filled env server history index poster size
  | .parse index poster | .postRecv index poster | .wsaRecv index poster =>
      (server.sessions index).incarnation = poster →
      Streams env server history poster [] (server.sessions index).recvQ.contents
  | .deliver index poster bytes => (server.sessions index).incarnation = poster →
      Streams env server history poster [bytes] (server.sessions index).recvQ.contents
  | .processAccept clientSocket => history.received clientSocket = []
  | .initializeSession pc index clientSocket _ => history.received clientSocket = [] ∧
      (pc = .sendQ ∨ pc = .overlapped → (server.sessions index).incarnation = clientSocket →
        (server.sessions index).recvQ.contents = [])
  | .bindIOCP index clientSocket _ | .announceConnect index clientSocket _ =>
      history.received clientSocket = [] ∧ ((server.sessions index).incarnation = clientSocket →
        (server.sessions index).recvQ.contents = [])
  | _ => True

/-- While a packet is between the ring and the event queue, only its frame knows of it. -/
def Tracked : List Frame → Prop
  | .deliver index poster bytes :: _ =>
      Frame.Tracks env server history (.deliver index poster bytes)
  | frames => ∀ frame ∈ frames, frame.Tracks env server history

end Streams

structure Unmoved (server next : Server) (history later : History) (socket : Socket) : Prop where
  received : later.received socket = history.received socket
  handed : payloads next.eventQueue (later.ids socket) =
    payloads server.eventQueue (history.ids socket)
  slot : ∀ index, (next.sessions index).incarnation = socket →
    (server.sessions index).incarnation = socket ∧
      (next.sessions index).recvQ = (server.sessions index).recvQ

section Unmoved

variable {env : Environment} {server next : Server} {history later : History}

theorem Unmoved.streams {socket : Socket} (unmoved : Unmoved server next history later socket)
    {held : List (List UInt8)} {rest : List UInt8}
    (streams : Streams env server history socket held rest) :
    Streams env next later socket held rest := by
  rw [Streams, unmoved.received, unmoved.handed]
  exact streams

theorem Unmoved.filled {index : Index} {socket : Socket} {size : Nat}
    (unmoved : Unmoved server next history later socket)
    (current : (next.sessions index).incarnation = socket)
    (filled : Filled env server history index socket size) :
    Filled env next later index socket size := by
  obtain ⟨ring, bytes, default, length, room, stored, streams⟩ := filled
  refine ⟨ring, bytes, default, length, room, ?_, unmoved.streams streams⟩
  rw [(unmoved.slot index current).2]
  exact stored

theorem Frame.Tracks.keep {frame : Frame} (tracks : frame.Tracks env server history)
    (unmoved : ∀ socket, frame.receives socket = true ∨ frame.handles socket = true →
      Unmoved server next history later socket) : frame.Tracks env next later := by
  cases frame with
  | dispatch completion =>
    intro receive result current
    have same := unmoved completion.request.incarnation
      (.inl (by simp [receives, Completion.receives, IORequest.receives, receive]))
    exact same.filled current (tracks receive result (same.slot _ current).1)
  | checkId completion =>
    intro receive current
    have same := unmoved completion.request.incarnation
      (.inl (by simp [receives, Completion.receives, IORequest.receives, receive]))
    exact same.filled current (tracks receive (same.slot _ current).1)
  | moveWritePtr index poster size =>
    intro current
    have same := unmoved poster (.inl (by simp [receives]))
    exact same.filled current (tracks (same.slot _ current).1)
  | parse index poster =>
    intro current
    have same := unmoved poster (.inr (by simp [handles]))
    have slot := same.slot index current
    rw [slot.2]
    exact same.streams (tracks slot.1)
  | deliver index poster bytes =>
    intro current
    have same := unmoved poster (.inr (by simp [handles]))
    have slot := same.slot index current
    rw [slot.2]
    exact same.streams (tracks slot.1)
  | postRecv index poster | wsaRecv index poster =>
    intro current
    have same := unmoved poster (.inl (by simp [receives]))
    have slot := same.slot index current
    rw [slot.2]
    exact same.streams (tracks slot.1)
  | processAccept clientSocket =>
    have same := unmoved clientSocket (.inl (by simp [receives]))
    exact same.received.trans tracks
  | initializeSession pc index clientSocket sessionId =>
    have same := unmoved clientSocket (.inl (by simp [receives]))
    refine ⟨same.received.trans tracks.1, fun late current => ?_⟩
    have slot := same.slot index current
    rw [slot.2]
    exact tracks.2 late slot.1
  | bindIOCP index clientSocket sessionId | announceConnect index clientSocket sessionId =>
    have same := unmoved clientSocket (.inl (by simp [receives]))
    refine ⟨same.received.trans tracks.1, fun current => ?_⟩
    have slot := same.slot index current
    rw [slot.2]
    exact tracks.2 slot.1
  | _ => trivial

theorem Tracked.of_all {frames : List Frame}
    (all : ∀ frame ∈ frames, frame.Tracks env server history) : Tracked env server history frames := by
  cases frames with
  | nil => exact all
  | cons frame rest =>
    cases frame with
    | deliver index poster bytes => exact all _ List.mem_cons_self
    | _ => exact all

theorem Tracked.all {frame : Frame} {rest : List Frame}
    (tracked : Tracked env server history (frame :: rest))
    (other : ∀ index poster bytes, frame ≠ .deliver index poster bytes) :
    ∀ below ∈ frame :: rest, below.Tracks env server history := by
  cases frame with
  | deliver index poster bytes => exact absurd rfl (other _ _ _)
  | _ => exact tracked

theorem Tracked.keep {frames : List Frame} (tracked : Tracked env server history frames)
    (unmoved : ∀ frame ∈ frames, ∀ socket, frame.receives socket = true ∨ frame.handles socket = true →
      Unmoved server next history later socket) : Tracked env next later frames := by
  cases frames with
  | nil => exact fun _ member => absurd member List.not_mem_nil
  | cons frame rest =>
    cases frame with
    | deliver index poster bytes =>
      have top : Frame.Tracks env server history (.deliver index poster bytes) := tracked
      exact top.keep (unmoved _ List.mem_cons_self)
    | _ => exact fun below member => (tracked below member).keep (unmoved below member)

end Unmoved

namespace Frame

variable {env : Environment} {server : Server} {history : History} {frame : Frame}

-- The frame moves the bytes of a socket on.
def advances (socket : Socket) : Frame → Bool
  | .moveWritePtr _ poster _ | .parse _ poster | .deliver _ poster _ => poster = socket
  | .initializeSession _ _ clientSocket _ => clientSocket = socket
  | _ => false

theorem record_received (server : Server) (history : History) (frame : Frame) :
    (frame.record server history).received = history.received := by
  cases frame with
  | disconnect index pc cleared =>
    cases pc with
    | exchange =>
      simp only [record]
      split <;> rfl
    | _ => rfl
  | send index target pc =>
    cases pc with
    | enqueue payload =>
      simp only [record]
      split <;> rfl
    | _ => rfl
  | processAccept clientSocket =>
    simp only [record]
    split <;> rfl
  | _ => rfl

-- Only ParsePackets hands payloads on.
theorem pushes_payloads (server : Server) (sessionId : SessionId)
    (other : ∀ index poster bytes, frame ≠ .deliver index poster bytes) :
    payloads (frame.pushes server) sessionId = [] := by
  cases frame with
  | deliver index poster bytes => exact absurd rfl (other _ _ _)
  | disconnect index pc cleared => cases pc <;> simp [pushes, payloads]
  | _ => simp [pushes, payloads]

end Frame

namespace Machine

variable {env : Environment} {Thread : Type} [DecidableEq Thread]

section Unmoved

variable {machine : Machine Thread} (settled : Settled machine) (announced : Announced machine)
  {thread other : Option Thread} {frame : Frame} {rest : List Frame} {socket : Socket}

include settled

omit [DecidableEq Thread] in
theorem Settled.advancing (member : frame ∈ machine.threads thread)
    (advances : frame.advances socket = true) : carries socket (machine.threads thread) = true := by
  cases frame with
  | moveWritePtr index poster size | initializeSession pc index clientSocket sessionId =>
    exact List.any_eq_true.mpr ⟨_, member, advances⟩
  | parse index poster | deliver index poster bytes =>
    exact (settled.nested thread).carries member advances
  | _ => cases advances

omit [DecidableEq Thread] in
theorem Settled.tracking (member : frame ∈ machine.threads thread)
    (tracks : frame.receives socket = true ∨ frame.handles socket = true) :
    carries socket (machine.threads thread) = true := by
  rcases tracks with receives | handles
  · exact List.any_eq_true.mpr ⟨_, member, receives⟩
  · exact (settled.nested thread).carries member handles

omit [DecidableEq Thread] in
theorem Settled.alone (here : carries socket (machine.threads thread) = true)
    (there : carries socket (machine.threads other) = true) : other = thread := by
  obtain ⟨placement, placed⟩ := settled.tokens.placed socket
  have held := (placed.holder thread here).symm.trans (placed.holder other there)
  cases held
  rfl

omit [DecidableEq Thread] in
theorem Settled.unposted (here : carries socket (machine.threads thread) = true) :
    machine.server.receives socket = 0 := by
  obtain ⟨placement, placed⟩ := settled.tokens.placed socket
  have held := placed.holder thread here
  subst held
  exact placed.1

include announced

omit [DecidableEq Thread] in
theorem record_payloads (early : ∀ clientSocket, frame = .processAccept clientSocket →
      machine.server.sessionIdCounter.toNat < 2 ^ 48) (member : frame ∈ machine.threads thread) :
    payloads machine.server.eventQueue
        ((frame.record machine.server machine.history).ids socket) =
      payloads machine.server.eventQueue (machine.history.ids socket) := by
  by_cases issues : frame.issues = true
  · cases frame with
    | processAccept clientSocket =>
      cases available : machine.server.availableIndices with
      | nil => simp only [Frame.record, available]
      | cons index more =>
        simp only [Frame.record, available]
        by_cases same : socket = clientSocket
        · subst same
          have unique := extractUniqueId_counter index (early socket rfl)
          rw [Function.update_self, settled.assigned.waiting thread socket member,
            payloads_unheard, payloads_unheard]
          · intro event heard same
            have real := (announced.known event heard).1
            rw [same] at real
            exact real rfl
          · intro event heard same
            have issued := announced.issued settled.assigned heard
            rw [same, unique] at issued
            exact Nat.lt_irrefl _ issued
        · rw [Function.update_of_ne same]
    | _ => cases issues
  · rw [Frame.record_ids (by simpa using issues)]

omit [DecidableEq Thread] in
theorem Settled.unmoved (mode : env.architectureType = .centralized) (bound : Bool)
    (top : machine.threads thread = frame :: rest) (permitted : Sequenced machine frame)
    (apart : frame.advances socket = false) :
    Unmoved machine.server (frame.turn env machine.server bound).1 machine.history
      (frame.record machine.server machine.history) socket := by
  have here : frame ∈ machine.threads thread := by
    rw [top]
    exact List.mem_cons_self
  have queue := (Frame.turn_counters env machine.server frame bound).2.2 mode
  have early (clientSocket : Socket) (same : frame = .processAccept clientSocket) :
      machine.server.sessionIdCounter.toNat < 2 ^ 48 := by
    subst same
    exact permitted.1
  refine ⟨by rw [Frame.record_received], ?_, fun index current => ?_⟩
  · rw [queue, payloads_append]
    by_cases delivers : ∃ index poster bytes, frame = .deliver index poster bytes
    · obtain ⟨index, poster, bytes, rfl⟩ := delivers
      have named := settled.deliver_id top permitted.2.2.1
      have real := (announced.known _ (announced.frames thread _ here)).1
      have differs : machine.history.ids poster ≠ machine.history.ids socket := by
        intro same
        have equal := settled.assigned.injective poster socket real same.symm
        subst equal
        simp [Frame.advances] at apart
      have ids : (Frame.record machine.server machine.history (.deliver index poster bytes)).ids =
          machine.history.ids := rfl
      rw [ids, Frame.pushes, named, payloads_received, if_neg differs, List.append_nil]
    · have other : ∀ index poster bytes, frame ≠ .deliver index poster bytes :=
        fun index poster bytes same => delivers ⟨index, poster, bytes, same⟩
      rw [Frame.pushes_payloads _ _ other, List.append_nil]
      exact record_payloads settled announced early here
  · by_cases initializes : ∃ pc slot clientSocket sessionId,
        frame = .initializeSession pc slot clientSocket sessionId
    · obtain ⟨pc, slot, clientSocket, sessionId, rfl⟩ := initializes
      have stored := (settled.identified.frames thread _ here).2.2.2.2.2.1
      simp only [Frame.turn, Server.modify_sessions] at current ⊢
      split at current
      · next same =>
        subst same
        have prepared : clientSocket = socket := by
          rw [InitializePc.store_incarnation] at current
          split at current
          · exact current
          · next late => exact (stored late).symm.trans current
        simp [Frame.advances, prepared] at apart
      · next differs =>
        rw [if_neg differs]
        exact ⟨current, rfl⟩
    · have other : ∀ pc slot clientSocket sessionId,
          frame ≠ .initializeSession pc slot clientSocket sessionId :=
        fun pc slot clientSocket sessionId same =>
          initializes ⟨pc, slot, clientSocket, sessionId, same⟩
      have before := ((Frame.turn_identity env machine.server frame bound other index).2.1).symm.trans
        current
      refine ⟨before, (Frame.turn_queues env machine.server frame bound ?_).2 ?_⟩
      · cases frame with
        | initializeSession => exact absurd rfl (other _ _ _ _)
        | _ => rfl
      · have slot := permitted.2.2
        cases frame with
        | moveWritePtr at_slot poster size | parse at_slot poster =>
          have differs : at_slot ≠ index := by
            rintro rfl
            have poster_current : (machine.server.sessions at_slot).incarnation = poster := slot
            rw [before] at poster_current
            simp [Frame.advances, poster_current] at apart
          simpa [Frame.parses] using differs
        | _ => rfl

end Unmoved

end Machine

namespace Frame

variable {env : Environment} {server next : Server} {history : History} {frame : Frame}

theorem Leads.tracks {frames : List Frame} (leads : Leads env server frame frames)
    (linked : server.Every Server.Linked) (still : ∀ socket, frame.advances socket = false)
    (undispatched : ∀ completion, frame ≠ .dispatch completion)
    (unhanded : ∀ index clientSocket sessionId,
      frame = .announceConnect index clientSocket sessionId →
      payloads next.eventQueue (history.ids clientSocket) = [])
    (tracks : frame.Tracks env next history) : ∀ below ∈ frames, below.Tracks env next history := by
  cases leads with
  | processRecv completion receive =>
    have kind : completion.request.operation ≠ .send := by
      intro send
      have operation := (linked completion.request.index).operation
      simp [send, CSession.overlapped, operation] at receive
    simp only [List.mem_singleton, forall_eq]
    exact tracks kind
  | send index target pc other =>
    generalize (sendTurn env server index pc).2 = pc
    simp [Tracks]
  | postRecv index poster valid =>
    simp only [List.mem_singleton, forall_eq]
    exact tracks
  | dispatch completion valid => exact absurd rfl (undispatched completion)
  | processAccept clientSocket index rest available =>
    simp only [List.mem_singleton, forall_eq]
    exact ⟨tracks, by simp⟩
  | bound index clientSocket sessionId =>
    simp only [List.mem_singleton, forall_eq]
    exact tracks
  | connected index clientSocket sessionId =>
    simp only [List.mem_singleton, forall_eq]
    intro current
    rw [Streams, unhanded index clientSocket sessionId rfl, tracks.1, tracks.2 current]
    rfl
  | parsePackets index poster size => simpa [advances] using still poster
  | packet index poster rest bytes turned => simpa [advances] using still poster
  | echo index poster bytes => simpa [advances] using still poster
  | store pc later index clientSocket sessionId => simpa [advances] using still clientSocket
  | stored pc index clientSocket sessionId => simpa [advances] using still clientSocket
  | _ => simp [Tracks, startDisconnect]

theorem dispatch_tracks (bound : Bool) {completion : Completion}
    (tracks : Frame.Tracks env next history (.dispatch completion)) :
    ∀ below ∈ (turn env server bound (.dispatch completion)).2, below.Tracks env next history := by
  simp only [turn]
  split
  · simp [Tracks, startDisconnect]
  · next passed =>
    split
    · simp only [List.mem_singleton, forall_eq]
      exact fun receive => tracks receive (by simpa using fun failed => passed (.inl failed))
    · simp

end Frame

namespace Machine

variable {env : Environment} {Thread : Type} [DecidableEq Thread]

structure Carried (env : Environment) (machine : Machine Thread) : Prop where
  rings : machine.server.Every Rings
  handed : ∀ socket, payloads machine.server.eventQueue (machine.history.ids socket) <+:
    (env.header.framer.parse (machine.history.received socket)).frames
  unreceived : ∀ socket, machine.server.accepted < socket → machine.history.received socket = []
  frames : ∀ thread, Tracked env machine.server machine.history (machine.threads thread)
  outstanding : ∀ request ∈ machine.server.outstanding, request.operation ≠ .send →
    (machine.server.sessions request.index).incarnation = request.incarnation ∧
      request.segments = Server.recvBuffers (machine.server.sessions request.index).recvQ ∧
      Streams env machine.server machine.history request.incarnation []
        (machine.server.sessions request.index).recvQ.contents
  completions : ∀ completion ∈ machine.server.completions,
    Frame.Tracks env machine.server machine.history (.dispatch completion)

theorem not_receives {server : Server} {socket : Socket} (none : server.receives socket = 0) :
    (∀ request ∈ server.outstanding, request.receives socket = false) ∧
      ∀ completion ∈ server.completions, completion.receives socket = false := by
  rw [Server.receives, Nat.add_eq_zero_iff, List.countP_eq_zero, List.countP_eq_zero] at none
  exact ⟨fun request member => by simpa using none.1 request member,
    fun completion member => by simpa using none.2 completion member⟩

omit [DecidableEq Thread] in
theorem Settled.sole {machine : Machine Thread} (settled : Settled machine) {position : Nat}
    {request : IORequest} {socket : Socket}
    (found : machine.server.outstanding[position]? = some request)
    (posted : request.receives socket = true) :
    (∀ other ∈ machine.server.outstanding.eraseIdx position, other.receives socket = false) ∧
      (∀ completion ∈ machine.server.completions, completion.receives socket = false) ∧
      ∀ thread, carries socket (machine.threads thread) = false := by
  obtain ⟨placement, placed⟩ := settled.tokens.placed socket
  have single := placed.jobs_le_one
  have removed := Server.countP_eraseIdx (IORequest.receives socket) found
  rw [posted] at removed
  have busy : 0 < machine.server.receives socket := by
    simp only [Server.receives, removed, Bool.toNat_true]
    omega
  have pending := placed.busy busy
  subst pending
  have none : (machine.server.outstanding.eraseIdx position).countP (IORequest.receives socket) = 0 ∧
      machine.server.completions.countP (Completion.receives socket) = 0 := by
    simp only [Server.receives, removed, Bool.toNat_true] at single
    omega
  rw [List.countP_eq_zero, List.countP_eq_zero] at none
  exact ⟨fun other member => by simpa using none.1 other member,
    fun completion member => by simpa using none.2 completion member, placed.2⟩

namespace Carried

variable {machine next : Machine Thread} {thread : Option Thread} {rest : List Frame}
  {frame : Frame}

theorem run (carried : Carried env machine) (settled : Settled machine)
    (announced : Announced machine) (mode : env.architectureType = .centralized) (bound : Bool)
    (top : machine.threads thread = frame :: rest) (permitted : Sequenced machine frame)
    (handed : ∀ socket, frame.advances socket = true →
      payloads (frame.turn env machine.server bound).1.eventQueue
          ((frame.record machine.server machine.history).ids socket) <+:
        (env.header.framer.parse (machine.history.received socket)).frames)
    (stack : Tracked env (frame.turn env machine.server bound).1
      (frame.record machine.server machine.history) ((frame.turn env machine.server bound).2 ++ rest)) :
    Carried env (machine.runFrame env thread bound frame rest) := by
  have here : frame ∈ machine.threads thread := by
    rw [top]
    exact List.mem_cons_self
  have unmoved (socket : Socket) (apart : frame.advances socket = false) :=
    settled.unmoved announced mode bound top permitted apart
  have received := Frame.record_received machine.server machine.history frame
  -- No receive of a socket is posted or completed while a thread moves its bytes on.
  have unposted {socket : Socket} (advances : frame.advances socket = true) :=
    not_receives (settled.unposted (settled.advancing here advances))
  have accepted := (Frame.turn_counters env machine.server frame bound).1
  refine ⟨(Moves.run thread bound frame rest top).rings carried.rings, fun socket => ?_,
    fun socket later => ?_, fun other => ?_, fun request member receive => ?_,
    fun completion member => ?_⟩
  · simp only [runFrame, received]
    by_cases advances : frame.advances socket = true
    · exact handed socket advances
    · rw [(unmoved socket (by simpa using advances)).handed]
      exact carried.handed socket
  · simp only [runFrame, received]
    rw [runFrame, accepted] at later
    exact carried.unreceived socket later
  · by_cases same : other = thread
    · subst same
      simpa only [runFrame, Function.update_self] using stack
    · simp only [runFrame, Function.update_of_ne same]
      refine (carried.frames other).keep fun below member socket tracks => unmoved socket ?_
      by_contra advances
      exact same (settled.alone (settled.advancing here (by simpa using advances))
        (settled.tracking member tracks))
  · rcases Frame.turn_outstanding member with old | ⟨opened, current, posted⟩
    · have apart : frame.advances request.incarnation = false := by
        by_contra advances
        have none := (unposted (by simpa using advances)).1 request old
        simp [IORequest.receives, receive] at none
      obtain ⟨before, segments, streams⟩ := carried.outstanding request old receive
      have after : ((frame.turn env machine.server bound).1.sessions request.index).incarnation =
          request.incarnation := by
        rw [← before]
        by_cases initializes : ∃ pc slot clientSocket sessionId,
            frame = .initializeSession pc slot clientSocket sessionId
        · obtain ⟨pc, slot, clientSocket, sessionId, rfl⟩ := initializes
          simp only [Frame.turn, Server.modify_sessions]
          split
          · next same =>
            rw [InitializePc.store_incarnation, ← same]
            split
            · next first =>
              subst first
              exact absurd same (permitted.2.2 request old receive)
            · rfl
          · rfl
        · refine (Frame.turn_identity env machine.server frame bound ?_ request.index).2.1
          exact fun pc slot clientSocket sessionId same =>
            initializes ⟨pc, slot, clientSocket, sessionId, same⟩
      have slot := (unmoved _ apart).slot request.index after
      refine ⟨after, ?_, ?_⟩
      · simp only [runFrame, slot.2]
        exact segments
      · simp only [runFrame, slot.2]
        exact (unmoved _ apart).streams streams
    · rcases posted with ⟨poster, rfl, _, segments⟩ | ⟨_, _, _, _, send, _⟩
      · have same : request.incarnation = poster := by
          rcases permitted.2.1 with closed | same
          · rw [opened] at closed
            cases closed
          · exact current.trans same
        have after := ((Frame.turn_identity env machine.server (.wsaRecv request.index poster) bound
          (by simp) request.index).2.1).trans current.symm
        have still := unmoved request.incarnation rfl
        have slot := still.slot request.index after
        have tracks := (carried.frames thread)
        rw [top] at tracks
        have streams := tracks (.wsaRecv request.index poster) List.mem_cons_self
          (current.symm.trans same)
        rw [← same] at streams
        refine ⟨after, ?_, ?_⟩
        · simp only [runFrame, slot.2]
          exact segments
        · simp only [runFrame, slot.2]
          exact still.streams streams
      · exact absurd send receive
  · rcases Frame.turn_completions member with old | ⟨_, failed⟩
    · refine (carried.completions completion old).keep fun socket tracks => unmoved socket ?_
      by_contra advances
      have none := (unposted (by simpa using advances)).2 completion old
      rcases tracks with receives | handles
      · simp [Frame.receives, none] at receives
      · cases handles
    · intro _ passed
      rw [failed] at passed
      cases passed

theorem runStill (carried : Carried env machine) (settled : Settled machine)
    (announced : Announced machine) (mode : env.architectureType = .centralized) (bound : Bool)
    (top : machine.threads thread = frame :: rest) (permitted : Sequenced machine frame)
    (still : ∀ socket, frame.advances socket = false) :
    Carried env (machine.runFrame env thread bound frame rest) := by
  have unmoved (socket : Socket) :=
    settled.unmoved announced mode bound top permitted (still socket)
  have before := carried.frames thread
  rw [top] at before
  have all := before.all (by
    rintro index poster bytes rfl
    simpa [Frame.advances] using still poster)
  have tracks := (all frame List.mem_cons_self).keep fun socket _ => unmoved socket
  have unhanded (index : Index) (clientSocket : Socket) (sessionId : SessionId)
      (same : frame = .announceConnect index clientSocket sessionId) :
      payloads (frame.turn env machine.server bound).1.eventQueue
        ((frame.record machine.server machine.history).ids clientSocket) = [] := by
    have received : machine.history.received clientSocket = [] := by
      subst same
      exact (all _ List.mem_cons_self).1
    have handed := carried.handed clientSocket
    rw [received, parse_nil_frames] at handed
    rw [(unmoved clientSocket).handed]
    exact List.prefix_nil.mp handed
  refine carried.run settled announced mode bound top permitted (fun socket advances => ?_)
    (Tracked.of_all fun below member => ?_)
  · rw [still socket] at advances
    cases advances
  · rcases List.mem_append.mp member with new | old
    · by_cases dispatches : ∃ completion, frame = .dispatch completion
      · obtain ⟨completion, rfl⟩ := dispatches
        exact Frame.dispatch_tracks bound tracks below new
      · exact (frame.turn_leads env machine.server bound).tracks settled.identified.tied.linked
          still (fun completion same => dispatches ⟨completion, same⟩) unhanded tracks below new
    · exact (all below (List.mem_cons_of_mem _ old)).keep fun socket _ => unmoved socket

theorem runMoveWritePtr (carried : Carried env machine) (settled : Settled machine)
    (announced : Announced machine) (mode : env.architectureType = .centralized) (bound : Bool)
    {index : Index} {poster size : Nat}
    (top : machine.threads thread = .moveWritePtr index poster size :: rest)
    (permitted : Sequenced machine (.moveWritePtr index poster size)) :
    Carried env (machine.runFrame env thread bound (.moveWritePtr index poster size) rest) := by
  have current : (machine.server.sessions index).incarnation = poster := permitted.2.2
  have bottom := settled.identified.shaped.last top rfl
  subst bottom
  have before := carried.frames thread
  rw [top] at before
  obtain ⟨ring, bytes, default, length, room, stored, streams⟩ :=
    before _ List.mem_cons_self current
  refine carried.run settled announced mode bound top permitted (fun socket _ => ?_)
    (Tracked.of_all ?_)
  · simp only [Frame.turn, Frame.moveWritePtrTurn, Frame.record]
    split <;> exact carried.handed socket
  · simp only [List.append_nil, Frame.turn, Frame.moveWritePtrTurn, Frame.record]
    split
    · simp [Frame.Tracks, Frame.startDisconnect]
    · next some =>
      split
      · simp [Frame.Tracks, Frame.startDisconnect]
      · next moved =>
        have allocated : ring.buffer.isSome := by
          by_contra missing
          have unallocated : ring.buffer = none := by simpa using missing
          apply moved
          rw [stored]
          simp [Server.fill, CRingBufferT.moveWritePtr, unallocated, Ne.symm some]
        have nonempty : bytes ≠ [] := by
          rintro rfl
          exact some length.symm
        have fits : bytes.length ≤ ring.getFreeSize := by
          rw [length]
          exact room
        have accepted := Server.fill_moveWritePtr default.sound default.narrow allocated nonempty
          fits
        rw [length, ← stored] at accepted
        obtain ⟨_, _, contents⟩ := default.sound.enqueued_spec fits
        have after : ((machine.server.modify index (CSession.storeRecvQ
            ((machine.server.sessions index).recvQ.moveWritePtr size).1)).sessions
              index).recvQ.contents = ring.contents ++ bytes := by
          rw [Server.modify_same, accepted]
          exact contents
        simp only [List.mem_cons, List.not_mem_nil, or_false, forall_eq_or_imp, forall_eq,
          Frame.Tracks]
        rw [after]
        exact ⟨fun _ => streams, fun _ => streams⟩

theorem runParse (carried : Carried env machine) (settled : Settled machine)
    (announced : Announced machine) (mode : env.architectureType = .centralized) (bound : Bool)
    {index : Index} {poster : Nat} (top : machine.threads thread = .parse index poster :: rest)
    (permitted : Sequenced machine (.parse index poster)) :
    Carried env (machine.runFrame env thread bound (.parse index poster) rest) := by
  have current : (machine.server.sessions index).incarnation = poster := permitted.2.2
  have nested := settled.nested thread
  rw [top] at nested
  have below : rest = [.postRecv index poster] := nested
  subst below
  have before := carried.frames thread
  rw [top] at before
  have streams : Streams env machine.server machine.history poster []
      (machine.server.sessions index).recvQ.contents := before _ List.mem_cons_self current
  refine carried.run settled announced mode bound top permitted (fun socket _ => ?_) ?_
  · simp only [Frame.turn, Frame.parseTurn, Frame.record]
    split <;> exact carried.handed socket
  · simp only [Frame.turn, Frame.parseTurn, Frame.record]
    split
    · exact fun other member => before other (List.mem_cons_of_mem _ member)
    · intro other member
      rcases List.mem_cons.mp member with rfl | last
      · trivial
      · exact before other (List.mem_cons_of_mem _ last)
    · next ring bytes turned =>
      have parsed := Server.parseTurn_parses mode (carried.rings index).recvQ.sound turned
      intro _
      rw [Streams, Server.modify_same]
      rw [Streams, parsed] at streams
      rw [streams, Parse.after_after, List.append_nil]
      rfl

theorem runDeliver (carried : Carried env machine) (settled : Settled machine)
    (announced : Announced machine) (mode : env.architectureType = .centralized) (bound : Bool)
    {index : Index} {poster : Nat} {bytes : List UInt8}
    (top : machine.threads thread = .deliver index poster bytes :: rest)
    (permitted : Sequenced machine (.deliver index poster bytes)) :
    Carried env (machine.runFrame env thread bound (.deliver index poster bytes) rest) := by
  have current : (machine.server.sessions index).incarnation = poster := permitted.2.2.1
  have named := settled.deliver_id top current
  have nested := settled.nested thread
  rw [top] at nested
  have below : rest = [.parse index poster, .postRecv index poster] := nested
  subst below
  have before := carried.frames thread
  rw [top] at before
  have streams : Streams env machine.server machine.history poster [bytes]
      (machine.server.sessions index).recvQ.contents := before current
  have turned : Frame.turn env machine.server bound (.deliver index poster bytes) =
      (machine.server.pushNetworkEvent ⟨.received, machine.history.ids poster, bytes⟩, []) := by
    simp only [Frame.turn, Frame.deliverTurn, mode, named]
  have handed : payloads (machine.server.pushNetworkEvent
        ⟨.received, machine.history.ids poster, bytes⟩).eventQueue (machine.history.ids poster) =
      payloads machine.server.eventQueue (machine.history.ids poster) ++ [bytes] := by
    rw [Server.pushNetworkEvent, payloads_append, payloads_received, if_pos rfl]
  have after : Streams env (machine.server.pushNetworkEvent
      ⟨.received, machine.history.ids poster, bytes⟩) machine.history poster []
        (machine.server.sessions index).recvQ.contents := by
    rw [Streams, handed, List.append_nil]
    exact streams
  refine carried.run settled announced mode bound top permitted (fun socket advances => ?_) ?_
  · have same : poster = socket := by simpa [Frame.advances] using advances
    subst same
    rw [turned]
    simp only [Frame.record]
    rw [handed, streams]
    exact List.prefix_append _ _
  · rw [turned]
    intro frame member
    rcases List.mem_cons.mp member with rfl | last
    · exact fun _ => after
    · rw [List.mem_singleton.mp last]
      exact fun _ => after

theorem runInitialize (carried : Carried env machine) (settled : Settled machine)
    (announced : Announced machine) (mode : env.architectureType = .centralized) (bound : Bool)
    {pc : InitializePc} {index : Index} {clientSocket : Socket} {sessionId : SessionId}
    (top : machine.threads thread = .initializeSession pc index clientSocket sessionId :: rest)
    (permitted : Sequenced machine (.initializeSession pc index clientSocket sessionId)) :
    Carried env (machine.runFrame env thread bound
      (.initializeSession pc index clientSocket sessionId) rest) := by
  have bottom := settled.identified.shaped.last top rfl
  subst bottom
  have before := carried.frames thread
  rw [top] at before
  obtain ⟨unreceived, empty⟩ : Frame.Tracks env machine.server machine.history
      (.initializeSession pc index clientSocket sessionId) := before _ List.mem_cons_self
  refine carried.run settled announced mode bound top permitted
    (fun socket _ => carried.handed socket) (Tracked.of_all ?_)
  simp only [Frame.turn, Frame.record, List.append_nil]
  cases pc with
  | recvQ =>
    intro below created
    cases List.mem_singleton.mp created
    refine ⟨unreceived, fun _ _ => ?_⟩
    rw [Server.modify_same]
    exact (carried.rings index).recvQ.sound.clear_spec.2
  | sendQ =>
    intro below created
    cases List.mem_singleton.mp created
    refine ⟨unreceived, fun _ current => ?_⟩
    rw [Server.modify_same] at current ⊢
    exact empty (.inl rfl) current
  | overlapped =>
    intro below created
    cases List.mem_singleton.mp created
    refine ⟨unreceived, fun current => ?_⟩
    rw [Server.modify_same] at current ⊢
    exact empty (.inr rfl) current
  | _ =>
    intro below created
    cases List.mem_singleton.mp created
    exact ⟨unreceived, by simp⟩

omit [DecidableEq Thread] in
theorem keep (carried : Carried env machine) (rings : next.server.Every Rings)
    (sessions : next.server.sessions = machine.server.sessions)
    (queue : next.server.eventQueue = machine.server.eventQueue)
    (history : next.history = machine.history)
    (accepted : machine.server.accepted ≤ next.server.accepted)
    (frames : ∀ thread, next.threads thread = machine.threads thread ∨
      Tracked env next.server next.history (next.threads thread))
    (outstanding : ∀ request ∈ next.server.outstanding, request ∈ machine.server.outstanding)
    (completions : ∀ completion ∈ next.server.completions,
      completion ∈ machine.server.completions ∨
        completion.request.operation = .send ∨ completion.result = false) :
    Carried env next := by
  have unmoved (socket : Socket) :
      Unmoved machine.server next.server machine.history next.history socket := by
    refine ⟨by rw [history], by rw [history, queue], fun index current => ?_⟩
    rw [sessions] at current ⊢
    exact ⟨current, rfl⟩
  refine ⟨rings, fun socket => ?_, fun socket later => ?_, fun thread => ?_,
    fun request member receive => ?_, fun completion member => ?_⟩
  · rw [history, queue]
    exact carried.handed socket
  · rw [history]
    exact carried.unreceived socket (Nat.lt_of_le_of_lt accepted later)
  · rcases frames thread with same | new
    · rw [same]
      exact (carried.frames thread).keep fun _ _ socket _ => unmoved socket
    · exact new
  · obtain ⟨current, segments, streams⟩ :=
      carried.outstanding request (outstanding request member) receive
    rw [sessions]
    exact ⟨current, segments, (unmoved _).streams streams⟩
  · rcases completions completion member with old | sent | failed
    · exact (carried.completions completion old).keep fun socket _ => unmoved socket
    · exact fun receive => absurd sent receive
    · intro _ passed
      rw [failed] at passed
      cases passed

omit [DecidableEq Thread] in
theorem receive (carried : Carried env machine) (settled : Settled machine) {position : Nat}
    {bytes : List UInt8} {request : IORequest}
    (found : machine.server.outstanding[position]? = some request)
    (receive : request.operation = .recv) (fits : bytes.length ≤ total request.segments)
    (rings : ((machine.server.modify request.index fun session =>
      { session with recvQ := Server.fill session.recvQ request.segments bytes }).complete
        position ⟨request, true, bytes.length⟩).Every Rings) :
    Carried env { machine with
      server := (machine.server.modify request.index fun session =>
        { session with recvQ := Server.fill session.recvQ request.segments bytes }).complete
          position ⟨request, true, bytes.length⟩
      history := { machine.history with
        received := Function.update machine.history.received request.socket
          (machine.history.received request.socket ++ bytes) } } := by
  have member := List.mem_of_getElem? found
  have kind : request.operation ≠ .send := by simp [receive]
  have socket := settled.identified.tied.requests request member
  obtain ⟨current, segments, streams⟩ := carried.outstanding request member kind
  have posted : request.receives request.incarnation = true := by
    simp [IORequest.receives, kind]
  -- The token is with this receive, so nothing else works for its socket.
  obtain ⟨others, queued, idle⟩ := settled.sole found posted
  have unmoved (other : Socket) (differs : other ≠ request.incarnation) :
      Unmoved machine.server ((machine.server.modify request.index fun session =>
          { session with recvQ := Server.fill session.recvQ request.segments bytes }).complete
            position ⟨request, true, bytes.length⟩)
        machine.history { machine.history with
          received := Function.update machine.history.received request.socket
            (machine.history.received request.socket ++ bytes) } other := by
    refine ⟨Function.update_of_ne (by rwa [socket]) _ _, rfl, fun index now => ?_⟩
    simp only [Server.complete, Server.modify_sessions] at now ⊢
    split at now
    · next same =>
      subst same
      exact absurd (now.symm.trans current) differs
    · next elsewhere =>
      rw [if_neg elsewhere]
      exact ⟨now, rfl⟩
  refine ⟨rings, fun other => ?_, fun other later => ?_, fun thread => ?_,
    fun other kept receives => ?_, fun completion completed => ?_⟩
  · by_cases same : other = request.socket
    · subst same
      simp only [Function.update_self]
      exact (carried.handed _).trans (parse_frames_grow _ _)
    · simp only [Function.update_of_ne same]
      exact carried.handed other
  · have early := settled.identified.bounded.outstanding request member
    have differs : other ≠ request.socket := by
      rw [socket]
      exact Nat.ne_of_gt (Nat.lt_of_le_of_lt early later)
    simp only [Function.update_of_ne differs]
    exact carried.unreceived other later
  · refine (carried.frames thread).keep fun frame above other tracks => unmoved other ?_
    rintro rfl
    have carries := settled.tracking above tracks
    rw [idle thread] at carries
    cases carries
  · have differs : other.incarnation ≠ request.incarnation := by
      intro same
      have none := others other kept
      simp [IORequest.receives, receives, same] at none
    obtain ⟨before, buffers, streamed⟩ :=
      carried.outstanding other (List.mem_of_mem_eraseIdx kept) receives
    have elsewhere : other.index ≠ request.index := by
      intro same
      rw [same, current] at before
      exact differs before.symm
    simp only [Server.complete, Server.modify_sessions, if_neg elsewhere]
    exact ⟨before, buffers, (unmoved _ differs).streams streamed⟩
  · rcases List.mem_append.mp completed with old | new
    · refine (carried.completions completion old).keep fun other tracks => unmoved other ?_
      rintro rfl
      have none := queued completion old
      rcases tracks with receives | handles
      · simp [Frame.receives, none] at receives
      · cases handles
    · rw [List.mem_singleton.mp new]
      intro _ _ _
      have default := (carried.rings request.index).recvQ
      rw [segments, Server.recvBuffers_total default.sound default.narrow] at fits
      refine ⟨(machine.server.sessions request.index).recvQ, bytes, default, rfl, fits, ?_, ?_⟩
      · simp [Server.complete, segments]
      · simp only [Streams, socket, Function.update_self]
        rw [parse_append, streams, feed_after, parse_append]
        rfl

theorem moves {action : Turn Thread} (carried : Carried env machine) (settled : Settled machine)
    (announced : Announced machine) (mode : env.architectureType = .centralized)
    (sequenced : Guarded Sequenced machine action) (moves : Moves env machine action next) :
    Carried env next := by
  have rings := moves.rings carried.rings
  have begun (starter : Option Thread) {frames : List Frame}
      (new : ∀ frame ∈ frames, frame.Tracks env machine.server machine.history)
      (thread : Option Thread) :
      Function.update machine.threads starter frames thread = machine.threads thread ∨
        Tracked env machine.server machine.history
          (Function.update machine.threads starter frames thread) := by
    by_cases here : thread = starter
    · subst here
      rw [Function.update_self]
      exact .inr (Tracked.of_all new)
    · exact .inl (Function.update_of_ne here _ _)
  have completed {request : IORequest} {result : Bool} {bytes : Nat}
      (quiet : request.operation = .send ∨ result = false) :
      ∀ completion ∈ machine.server.completions ++ [⟨request, result, bytes⟩],
        completion ∈ machine.server.completions ∨
          completion.request.operation = .send ∨ completion.result = false := by
    intro completion member
    rcases List.mem_append.mp member with old | new
    · exact .inl old
    · rw [List.mem_singleton.mp new]
      exact .inr quiet
  cases moves with
  | run thread bound frame rest top =>
    have permitted : Sequenced machine frame := sequenced frame (by simp [top])
    cases frame with
    | moveWritePtr index poster size =>
      exact carried.runMoveWritePtr settled announced mode bound top permitted
    | parse index poster => exact carried.runParse settled announced mode bound top permitted
    | deliver index poster bytes =>
      exact carried.runDeliver settled announced mode bound top permitted
    | initializeSession pc index clientSocket sessionId =>
      exact carried.runInitialize settled announced mode bound top permitted
    | _ => exact carried.runStill settled announced mode bound top permitted fun _ => rfl
  | accept idle =>
    refine carried.keep rings rfl rfl rfl (Nat.le_succ _) (begun none ?_) (fun _ => id)
      (fun _ => .inl)
    simp only [List.mem_cons, List.not_mem_nil, or_false, forall_eq_or_imp, forall_eq]
    exact ⟨trivial, carried.unreceived _ (Nat.lt_succ_self _)⟩
  | acceptFailed idle =>
    exact carried.keep rings rfl rfl rfl (Nat.le_refl _) (begun none (by simp [Frame.Tracks]))
      (fun _ => id) (fun _ => .inl)
  | worker thread position completion found idle =>
    refine carried.keep rings rfl rfl rfl (Nat.le_refl _) (begun (some thread) ?_) (fun _ => id)
      (fun other member => .inl (List.mem_of_mem_eraseIdx member))
    intro frame member
    rw [List.mem_singleton.mp member]
    exact carried.completions completion (List.mem_of_getElem? found)
  | requestSendMsg thread sessionId payload idle =>
    exact carried.keep rings rfl rfl rfl (Nat.le_refl _)
      (begun (some thread) (by simp [Frame.Tracks])) (fun _ => id) (fun _ => .inl)
  | requestDisconnectSession thread sessionId idle =>
    exact carried.keep rings rfl rfl rfl (Nat.le_refl _)
      (begun (some thread) (by simp [Frame.Tracks])) (fun _ => id) (fun _ => .inl)
  | receive position bytes request found receive fits =>
    exact carried.receive settled found receive fits rings
  | transmit position count request found send some fits =>
    exact carried.keep rings rfl rfl rfl (Nat.le_refl _) (fun _ => .inl rfl)
      (fun other member => List.mem_of_mem_eraseIdx member) (completed (.inl send))
  | fail position request found =>
    exact carried.keep rings rfl rfl rfl (Nat.le_refl _) (fun _ => .inl rfl)
      (fun other member => List.mem_of_mem_eraseIdx member) (completed (.inr rfl))

end Carried

omit [DecidableEq Thread] in
theorem start_carried : Carried env (start env : Machine Thread) where
  rings index := Rings.constructed (env.recvMemory index) (env.sendMemory index)
  handed _ := List.nil_prefix
  unreceived _ _ := rfl
  frames _ _ member := absurd member List.not_mem_nil
  outstanding _ member := absurd member List.not_mem_nil
  completions _ member := absurd member List.not_mem_nil

theorem reachable_carried {machine : Machine Thread} (mode : env.architectureType = .centralized)
    (reached : Reachable (step env) (Guarded Sequenced) (start env) machine) :
    Carried env machine := by
  induction reached with
  | start => exact start_carried
  | step reached sequenced taken ih =>
    exact ih.moves (reachable_settled mode reached) (reachable_announced mode reached) mode sequenced
      (step_moves taken)

structure InOrder (env : Environment) (machine : Machine Thread) : Prop where
  timely : Ordered Timely machine.server.eventQueue
  framed : ∀ sessionId bytes, ⟨.received, sessionId, bytes⟩ ∈ machine.server.eventQueue →
    ∃ socket, (∀ other, machine.history.ids other = sessionId ↔ other = socket) ∧
      bytes ∈ (env.header.framer.parse (machine.history.received socket)).frames
  handed : ∀ socket, payloads machine.server.eventQueue (machine.history.ids socket) <+:
    (env.header.framer.parse (machine.history.received socket)).frames

/-- In a run in which no thread is overtaken by the disconnect or the reuse of the session it works
for, every session's events come in order and carry its own frames. -/
theorem events_in_order {machine : Machine Thread} (mode : env.architectureType = .centralized)
    (reached : Reachable (step env) (Guarded Sequenced) (start env) machine) :
    InOrder env machine := by
  have announced := reachable_announced mode reached
  have carried := reachable_carried mode reached
  refine ⟨announced.timely, fun sessionId bytes member => ?_, carried.handed⟩
  obtain ⟨real, socket, named⟩ := announced.known _ member
  have known : extractUniqueId (machine.history.ids socket) ≠ 0 := by
    rw [named]
    exact real
  have handed : bytes ∈ payloads machine.server.eventQueue (machine.history.ids socket) := by
    rw [named]
    exact List.mem_filterMap.mpr ⟨_, member, by simp⟩
  refine ⟨socket, fun other => ⟨fun same => ?_, fun same => ?_⟩,
    (carried.handed socket).subset handed⟩
  · exact (reachable_settled mode reached).assigned.injective socket other known
      (same.trans named.symm)
  · rw [same]
    exact named

-- The client is disconnected while a worker has a packet of it in hand.
theorem received_after_disconnected :
    ¬ ∀ machine : Machine (Fin 2), Reachable (step Server.oneSlot) Always (start Server.oneSlot) machine →
      InOrder Server.oneSlot machine := by
  intro always
  obtain ⟨machine, reached, seen⟩ := Reachable.observe (step Server.oneSlot)
    (start Server.oneSlot : Machine (Fin 2))
    (.accept :: .run none true :: acceptClient ++
      .receive 0 [4, 0, 6, 0] :: .worker 0 0 :: List.replicate 4 (.run (some 0) true) ++
      .requestDisconnectSession 1 1 :: List.replicate 7 (.run (some 1) true) ++
      [.run (some 0) true])
    (fun machine => machine.server.eventQueue =
      [⟨.connected, 1, []⟩, ⟨.disconnected, 1, []⟩, ⟨.received, 1, [4, 0, 6, 0]⟩]) (by decide +kernel)
  have queue := of_decide_eq_true seen
  have timely := (always machine reached).timely [⟨.connected, 1, []⟩, ⟨.disconnected, 1, []⟩]
    ⟨.received, 1, [4, 0, 6, 0]⟩ [] queue
  exact timely.2 ⟨.disconnected, 1, []⟩ (by simp) rfl rfl

-- Each of two clients that have the slot in turn sends a packet.
theorem events_in_order_reused_slot :
    ∃ machine : Machine (Fin 2), machine.server.eventQueue =
        [⟨.connected, 1, []⟩, ⟨.received, 1, [4, 0, 6, 0]⟩, ⟨.disconnected, 1, []⟩,
          ⟨.connected, 2, []⟩, ⟨.received, 2, [5, 0, 1, 0, 7]⟩] ∧
      InOrder Server.oneSlot machine := by
  obtain ⟨machine, reached, seen⟩ := Reachable.observe
    (restrict (step Server.oneSlot) (Guarded Sequenced)) (start Server.oneSlot : Machine (Fin 2))
    (.accept :: .run none true :: acceptClient ++
      .receive 0 [4, 0, 6, 0] :: .worker 0 0 :: List.replicate 8 (.run (some 0) true) ++
      .requestDisconnectSession 1 1 :: List.replicate 7 (.run (some 1) true) ++
      .accept :: List.replicate 3 (.run none true) ++ acceptClient ++
      .receive 0 [5, 0, 1, 0, 7] :: .worker 0 1 :: List.replicate 8 (.run (some 0) true))
    (fun machine => machine.server.eventQueue =
      [⟨.connected, 1, []⟩, ⟨.received, 1, [4, 0, 6, 0]⟩, ⟨.disconnected, 1, []⟩,
        ⟨.connected, 2, []⟩, ⟨.received, 2, [5, 0, 1, 0, 7]⟩]) (by decide +kernel)
  exact ⟨machine, of_decide_eq_true seen, events_in_order rfl reached.unrestrict⟩

end Machine

end MiniGames
