import MiniGames.Network.SessionInvariants
import MiniGames.Network.Threads

set_option autoImplicit false

namespace MiniGames

open Circular Runs

theorem SendPc.turn_statement (session : CSession) (accepted : Bool) (garbage : Nat) (pc : SendPc) :
    (pc.turn session accepted garbage).session = session ∨
      Statement session (pc.turn session accepted garbage).session := by
  cases pc with
  | enqueue payload => exact .inr (.enqueue payload.data payload.size)
  | exchange => exact .inr (.storeSending true)
  | releaseEarly => exact .inr (.storeSending false)
  | wsaSend info =>
    simp only [turn]
    split <;> exact .inr .armSend
  | consume bytesTransferred => exact .inr (.consume bytesTransferred)
  | wsaSendRest info =>
    simp only [turn]
    split <;> exact .inr .armSend
  | releaseSent => exact .inr (.storeSending false)
  | releaseFailed => exact .inr (.storeSending false)
  | disconnect => exact .inr .invalidate
  | _ => exact .inl rfl

namespace InitializePc

variable (clientSocket : Socket) (sessionId : SessionId) (session : CSession) (pc : InitializePc)

@[simp] theorem store_incarnation : (pc.store clientSocket sessionId session).incarnation =
    if pc = .socket then clientSocket else session.incarnation := by
  cases pc <;> rfl

@[simp] theorem store_socket : (pc.store clientSocket sessionId session).socket =
    if pc = .socket then some clientSocket else session.socket := by
  cases pc <;> rfl

@[simp] theorem store_sessionId : (pc.store clientSocket sessionId session).sessionId =
    if pc = .sessionId then sessionId else session.sessionId := by
  cases pc <;> rfl

@[simp] theorem store_valid : (pc.store clientSocket sessionId session).valid =
    if pc = .valid then true else session.valid := by
  cases pc <;> rfl

@[simp] theorem store_recvQ : (pc.store clientSocket sessionId session).recvQ =
    if pc = .recvQ then session.recvQ.clear else session.recvQ := by
  cases pc <;> rfl

@[simp] theorem store_sendQ : (pc.store clientSocket sessionId session).sendQ =
    if pc = .sendQ then session.sendQ.clear else session.sendQ := by
  cases pc <;> rfl

end InitializePc

namespace Server.Stable

variable {env : Environment} {property : Server → Prop} {server : Server}

theorem sendTurn (stable : Stable env property) (index : Index) (pc : SendPc)
    (holds : property server) : property (Frame.sendTurn env server index pc).1 := by
  have moved (accepted : Bool) (garbage : Nat) : property (server.modify index
      fun _ => (pc.turn (server.sessions index) accepted garbage).session) := by
    rcases pc.turn_statement (server.sessions index) accepted garbage with same | statement
    · rw [same]
      exact stable.bookkeeping holds (by simp [modify]) rfl rfl
    · exact stable.statement index holds statement
  simp only [Frame.sendTurn]
  split
  · exact stable.post index .send _ (moved _ _)
  · exact moved _ _

theorem disconnectTurn (stable : Stable env property) (index : Index) (cleared : SessionId)
    (pc : DisconnectPc) (holds : property server) :
    property (Frame.disconnectTurn env server index cleared pc).1 := by
  cases pc with
  | exchange =>
    simp only [Frame.disconnectTurn]
    split
    · exact stable.statement index holds .invalidate
    · exact holds
  | close => exact stable.close index holds
  | clearSending => exact stable.statement index holds (.storeSending false)
  | pushPending => exact stable.bookkeeping holds rfl rfl rfl
  | readSessionId => exact holds
  | pushEvent sessionId => exact stable.announceDisconnect sessionId holds

theorem wsaRecvTurn (stable : Stable env property) (index : Index) (holds : property server) :
    property (Frame.wsaRecvTurn env server index).1 := by
  have armed := stable.statement index holds .armRecv
  simp only [Frame.wsaRecvTurn]
  split
  · exact armed
  · exact stable.post index .recv _ armed

theorem turn (stable : Stable env property) (bound : Bool) (frame : Frame)
    (initialized : ∀ pc index clientSocket sessionId,
      frame = .initializeSession pc index clientSocket sessionId →
      property (server.modify index (pc.store clientSocket sessionId)))
    (holds : property server) : property (frame.turn env server bound).1 := by
  cases frame with
  | send index target pc => exact stable.sendTurn index pc holds
  | disconnect index pc cleared => exact stable.disconnectTurn index cleared pc holds
  | moveWritePtr index incarnation size =>
    simp only [Frame.turn, Frame.moveWritePtrTurn]
    split
    · exact holds
    · exact stable.statement index holds (.moveWritePtr size)
  | parse index incarnation =>
    simp only [Frame.turn, Frame.parseTurn]
    split
    · exact holds
    · exact holds
    · next turn =>
      obtain ⟨size, rfl⟩ := parseTurn_packet turn
      exact stable.statement index holds (.dequeue size)
  | deliver index incarnation bytes =>
    simp only [Frame.turn, Frame.deliverTurn]
    split
    · exact holds
    · exact stable.bookkeeping holds rfl rfl rfl
    · exact holds
  | wsaRecv index incarnation => exact stable.wsaRecvTurn index holds
  | releaseSession =>
    simp only [Frame.turn]
    split
    · exact holds
    · exact stable.bookkeeping holds rfl rfl rfl
  | release sessionId => exact stable.releaseOne sessionId holds
  | processAccept clientSocket =>
    simp only [Frame.turn, Frame.processAcceptTurn]
    split
    · exact stable.closesocket clientSocket holds
    · exact stable.bookkeeping holds rfl rfl rfl
  | initializeSession pc index clientSocket sessionId =>
    exact initialized pc index clientSocket sessionId rfl
  | bindIOCP index clientSocket sessionId =>
    simp only [Frame.turn, Frame.bindTurn]
    split
    · exact holds
    · exact stable.closesocket clientSocket
        (stable.bookkeeping (stable.close index holds) rfl rfl rfl)
  | announceConnect index clientSocket sessionId =>
    simp only [Frame.turn, announceConnect]
    split
    · exact stable.bookkeeping holds rfl rfl rfl
    · exact holds
  | _ => exact holds

end Server.Stable

namespace Machine

variable {env : Environment} {Thread : Type} [DecidableEq Thread]

inductive Moves (env : Environment) (machine : Machine Thread) :
    Turn Thread → Machine Thread → Prop where
  | run (thread : Option Thread) (bound : Bool) (frame : Frame) (rest : List Frame)
      (top : machine.threads thread = frame :: rest) :
      Moves env machine (.run thread bound) (machine.runFrame env thread bound frame rest)
  | accept (idle : machine.threads none = []) :
      Moves env machine .accept
        { machine with
          server := { machine.server with accepted := machine.server.accepted + 1 }
          threads := Function.update machine.threads none
            [.releaseSession, .processAccept (machine.server.accepted + 1)] }
  | acceptFailed (idle : machine.threads none = []) :
      Moves env machine .acceptFailed
        { machine with threads := Function.update machine.threads none [.releaseSession] }
  | receive (position : Nat) (bytes : List UInt8) (request : IORequest)
      (found : machine.server.outstanding[position]? = some request)
      (receive : request.operation = .recv) (fits : bytes.length ≤ total request.segments) :
      Moves env machine (.receive position bytes)
        { machine with
          server := (machine.server.modify request.index fun session =>
            { session with recvQ := Server.fill session.recvQ request.segments bytes }).complete
              position ⟨request, true, bytes.length⟩
          history := { machine.history with
            received := Function.update machine.history.received request.socket
              (machine.history.received request.socket ++ bytes) } }
  | transmit (position count : Nat) (request : IORequest)
      (found : machine.server.outstanding[position]? = some request)
      (send : request.operation = .send) (some : 0 < count)
      (fits : count ≤ total request.segments) :
      Moves env machine (.transmit position count)
        { machine with server := machine.server.complete position ⟨request, true, count⟩ }
  | fail (position : Nat) (request : IORequest)
      (found : machine.server.outstanding[position]? = some request) :
      Moves env machine (.fail position)
        { machine with server := machine.server.complete position ⟨request, false, 0⟩ }
  | worker (thread : Thread) (position : Nat) (completion : Completion)
      (found : machine.server.completions[position]? = some completion)
      (idle : machine.threads (some thread) = []) :
      Moves env machine (.worker thread position)
        { machine with
          server := machine.server.dequeueCompletion position
          threads := Function.update machine.threads (some thread) [.dispatch completion] }
  | requestSendMsg (thread : Thread) (sessionId : SessionId) (payload : Payload)
      (idle : machine.threads (some thread) = []) :
      Moves env machine (.requestSendMsg thread sessionId payload)
        { machine with
          threads := Function.update machine.threads (some thread) [.findSend sessionId payload] }
  | requestDisconnectSession (thread : Thread) (sessionId : SessionId)
      (idle : machine.threads (some thread) = []) :
      Moves env machine (.requestDisconnectSession thread sessionId)
        { machine with
          threads := Function.update machine.threads (some thread) [.findDisconnect sessionId] }

/-- A condition on the statements that the threads run, in the states in which they run them. -/
def Guarded (permits : Machine Thread → Frame → Prop) (machine : Machine Thread) :
    Turn Thread → Prop
  | .run thread _ => ∀ frame ∈ (machine.threads thread).head?, permits machine frame
  | _ => True

instance (permits : Machine Thread → Frame → Prop) [∀ machine frame, Decidable (permits machine frame)]
    (machine : Machine Thread) (action : Turn Thread) : Decidable (Guarded permits machine action) :=
  match action with
  | .run thread _ =>
      inferInstanceAs (Decidable (∀ frame ∈ (machine.threads thread).head?, permits machine frame))
  | .accept | .acceptFailed | .receive _ _ | .transmit _ _ | .fail _ | .worker _ _
  | .requestSendMsg _ _ _ | .requestDisconnectSession _ _ => inferInstanceAs (Decidable True)

theorem begin_eq {machine next : Machine Thread} {thread : Option Thread} {frames : List Frame}
    (begun : machine.begin thread frames = some next) :
    machine.threads thread = [] ∧
      next = { machine with threads := Function.update machine.threads thread frames } := by
  simp only [begin, Option.bind_eq_bind, Option.bind_eq_some_iff] at begun
  obtain ⟨_, idle, begun⟩ := begun
  cases begun
  exact ⟨by simpa [guard] using idle, rfl⟩

theorem step_moves {machine next : Machine Thread} {action : Turn Thread}
    (taken : machine.step env action = some next) : Moves env machine action next := by
  cases action with
  | run thread bound =>
    simp only [step] at taken
    split at taken
    · cases taken
    · next frame rest top =>
      cases taken
      exact .run thread bound frame rest top
  | accept =>
    obtain ⟨idle, rfl⟩ := begin_eq taken
    exact .accept idle
  | acceptFailed =>
    obtain ⟨idle, rfl⟩ := begin_eq taken
    exact .acceptFailed idle
  | receive position bytes =>
    simp only [step, Server.step, Option.bind_eq_bind, Option.bind_eq_some_iff] at taken
    obtain ⟨request, found, server, ⟨again, same, _, guarded, served⟩, taken⟩ := taken
    cases taken
    cases served
    cases found.symm.trans same
    obtain ⟨receive, fits⟩ : request.operation = .recv ∧ bytes.length ≤ total request.segments := by
      simpa [guard] using guarded
    exact .receive position bytes request found receive fits
  | transmit position count =>
    simp only [step, Server.step, Option.bind_eq_bind, Option.bind_eq_some_iff] at taken
    obtain ⟨server, ⟨request, found, _, guarded, served⟩, taken⟩ := taken
    cases taken
    cases served
    obtain ⟨send, some, fits⟩ : request.operation = .send ∧ 0 < count ∧
        count ≤ total request.segments := by
      simpa [guard] using guarded
    exact .transmit position count request found send some fits
  | fail position =>
    simp only [step, Server.step, Option.bind_eq_bind, Option.bind_eq_some_iff] at taken
    obtain ⟨server, ⟨request, found, served⟩, taken⟩ := taken
    cases taken
    cases served
    exact .fail position request found
  | worker thread position =>
    simp only [step, Option.bind_eq_bind, Option.bind_eq_some_iff] at taken
    obtain ⟨completion, found, taken⟩ := taken
    obtain ⟨idle, rfl⟩ := begin_eq taken
    exact .worker thread position completion found idle
  | requestSendMsg thread sessionId payload =>
    obtain ⟨idle, rfl⟩ := begin_eq taken
    exact .requestSendMsg thread sessionId payload idle
  | requestDisconnectSession thread sessionId =>
    obtain ⟨idle, rfl⟩ := begin_eq taken
    exact .requestDisconnectSession thread sessionId idle

theorem Moves.stable {property : Server → Prop} {machine next : Machine Thread}
    {action : Turn Thread} (moves : Moves env machine action next)
    (stable : Server.Stable env property)
    (initialized : ∀ thread bound pc index clientSocket sessionId rest,
      action = .run thread bound →
      machine.threads thread = .initializeSession pc index clientSocket sessionId :: rest →
      property (machine.server.modify index (pc.store clientSocket sessionId)))
    (holds : property machine.server) : property next.server := by
  cases moves with
  | run thread bound frame rest top =>
    refine stable.turn bound frame ?_ holds
    rintro pc index clientSocket sessionId rfl
    exact initialized thread bound pc index clientSocket sessionId rest rfl top
  | accept idle => exact stable.bookkeeping holds rfl rfl rfl
  | acceptFailed idle => exact holds
  | receive position bytes request found receive fits =>
    have filled : property (machine.server.modify request.index fun session =>
        { session with recvQ := Server.fill session.recvQ request.segments bytes }) :=
      stable.statement request.index holds (.fill _ _)
    exact stable.complete true bytes.length filled found
  | transmit position count request found send some fits =>
    exact stable.complete true count holds found
  | fail position request found => exact stable.complete false 0 holds found
  | worker thread position completion found idle =>
    exact stable.dequeueCompletion position holds
  | requestSendMsg thread sessionId payload idle => exact holds
  | requestDisconnectSession thread sessionId idle => exact holds

end Machine

namespace Server

variable (env : Environment) (server : Server) (index : Index)

theorem close_counters : (server.close index).accepted = server.accepted ∧
    (server.close index).sessionIdCounter = server.sessionIdCounter ∧
    (server.close index).eventQueue = server.eventQueue := by
  simp only [close]
  split <;> exact ⟨rfl, rfl, rfl⟩

theorem post_counters (operation : IOOperation) (segments : List Segment) :
    (server.post env index operation segments).1.accepted = server.accepted ∧
      (server.post env index operation segments).1.sessionIdCounter = server.sessionIdCounter ∧
      (server.post env index operation segments).1.eventQueue = server.eventQueue := by
  simp only [post]
  split
  · split <;> exact ⟨rfl, rfl, rfl⟩
  · exact ⟨rfl, rfl, rfl⟩

end Server

namespace Frame

variable {env : Environment} {server : Server}

-- The events that a statement pushes in centralized mode.
def pushes (server : Server) : Frame → List NetworkEvent
  | .disconnect _ (.pushEvent sessionId) _ => [⟨.disconnected, sessionId, []⟩]
  | .announceConnect _ _ sessionId => [⟨.connected, sessionId, []⟩]
  | .deliver index _ bytes => [⟨.received, (server.sessions index).sessionId, bytes⟩]
  | _ => []

def issues : Frame → Bool
  | .processAccept _ => true
  | _ => false

theorem turn_counters (env : Environment) (server : Server) (frame : Frame) (bound : Bool) :
    (frame.turn env server bound).1.accepted = server.accepted ∧
      (frame.issues = false →
        (frame.turn env server bound).1.sessionIdCounter = server.sessionIdCounter) ∧
      (env.architectureType = .centralized →
        (frame.turn env server bound).1.eventQueue = server.eventQueue ++ frame.pushes server) := by
  have posted {server : Server} (index : Index) (operation : IOOperation)
      (segments : List Segment) := server.post_counters env index operation segments
  have closed {server : Server} (index : Index) := server.close_counters index
  cases frame with
  | send index target pc =>
    simp only [turn, sendTurn]
    split <;> simp [posted, pushes, Server.modify]
  | disconnect index pc cleared =>
    cases pc with
    | exchange =>
      simp only [turn, disconnectTurn]
      split <;> simp [pushes, Server.modify]
    | pushEvent sessionId =>
      simp only [turn, disconnectTurn, Server.announceDisconnect]
      split
      · simp [pushes, Server.pushNetworkEvent]
      · next other => exact ⟨rfl, fun _ => rfl, fun mode => absurd mode (by simpa using other)⟩
    | _ => simp [turn, disconnectTurn, closed, pushes, Server.modify, Server.pushPending]
  | moveWritePtr index incarnation size =>
    simp only [turn, moveWritePtrTurn]
    split <;> simp [pushes, Server.modify]
  | parse index incarnation =>
    simp only [turn, parseTurn]
    split <;> simp [pushes, Server.modify]
  | deliver index incarnation bytes =>
    simp only [turn, deliverTurn]
    split
    · next mode => simp [mode]
    · simp [pushes, Server.pushNetworkEvent]
    · next other => exact ⟨rfl, fun _ => rfl, fun mode => absurd mode (by simpa using other)⟩
  | wsaRecv index incarnation =>
    simp only [turn, wsaRecvTurn]
    split <;> simp [posted, pushes, Server.modify]
  | releaseSession =>
    simp only [turn]
    split <;> simp [pushes]
  | release sessionId =>
    simp only [turn, Server.releaseOne]
    split <;> simp [closed, pushes]
  | processAccept clientSocket =>
    simp only [turn, processAcceptTurn]
    split <;> simp [pushes, issues, Server.closesocket]
  | bindIOCP index clientSocket sessionId =>
    simp only [turn, bindTurn]
    split <;> simp [closed, pushes, Server.closesocket]
  | announceConnect index clientSocket sessionId =>
    simp only [turn, Server.announceConnect]
    split
    · simp [pushes, Server.pushNetworkEvent]
    · next other => exact ⟨rfl, fun _ => rfl, fun mode => absurd mode (by simpa using other)⟩
  | _ => simp [turn, pushes, Server.modify]

end Frame

namespace Frame

variable {env : Environment} {server : Server}

-- A frame that a callee's frames may stand on.
def waits : Frame → Bool
  | .parse _ _ | .postRecv _ _ | .releaseSession | .processAccept _ => true
  | _ => false

-- A frame that a thread starts on, or that takes over from one: it has no caller on the stack.
def bottom : Frame → Bool
  | .dispatch _ | .checkId _ | .moveWritePtr _ _ _ | .postRecv _ _ | .wsaRecv _ _
  | .processAccept _ | .initializeSession _ _ _ _ | .bindIOCP _ _ _ | .announceConnect _ _ _ => true
  | _ => false

def StandsOn (above below : Frame) : Prop := above.bottom = false ∧ below.waits = true

-- A frame of the accept thread alone.
def accepting : Frame → Bool
  | .releaseSession | .release _ | .processAccept _ | .initializeSession _ _ _ _
  | .bindIOCP _ _ _ | .announceConnect _ _ _ => true
  | _ => false

-- A disconnect has a frame of its own.
def proper : Frame → Bool
  | .send _ _ .disconnect => false
  | _ => true

inductive Leads (env : Environment) (server : Server) : Frame → List Frame → Prop where
  | ends (frame : Frame) : Leads env server frame []
  | abort (frame : Frame) (index : Index) : Leads env server frame [startDisconnect index]
  | foundSend (sessionId : SessionId) (payload : Payload) (index : Index)
      (found : server.findSession env sessionId = some index) :
      Leads env server (.findSend sessionId payload)
        [.send index (some sessionId) (.checkValid payload)]
  | send (index : Index) (target : Option SessionId) (pc : SendPc)
      (proper : (sendTurn env server index pc).2 ≠ .disconnect) :
      Leads env server (.send index target pc) [.send index target (sendTurn env server index pc).2]
  | clear (index : Index) (cleared : SessionId) (valid : (server.sessions index).valid = true) :
      Leads env server (.disconnect index .exchange cleared)
        [.disconnect index .close (server.sessions index).sessionId]
  | close (index : Index) (cleared : SessionId) :
      Leads env server (.disconnect index .close cleared) [.disconnect index .clearSending cleared]
  | clearSending (index : Index) (cleared : SessionId) :
      Leads env server (.disconnect index .clearSending cleared)
        [.disconnect index .pushPending cleared]
  | pushPending (index : Index) (cleared : SessionId) :
      Leads env server (.disconnect index .pushPending cleared)
        [.disconnect index .readSessionId cleared]
  | readSessionId (index : Index) (cleared : SessionId) :
      Leads env server (.disconnect index .readSessionId cleared)
        [.disconnect index (.pushEvent (server.sessions index).sessionId) cleared]
  | dispatch (completion : Completion)
      (valid : (server.sessions completion.request.index).valid = true) :
      Leads env server (.dispatch completion) [.checkId completion]
  | processRecv (completion : Completion)
      (receive : ((server.sessions completion.request.index).overlapped
        completion.request.operation).operation = .recv) :
      Leads env server (.checkId completion) [.moveWritePtr completion.request.index
        completion.request.incarnation completion.bytesTransferred]
  | processSend (completion : Completion) :
      Leads env server (.checkId completion)
        [.send completion.request.index none (.sentValid completion.bytesTransferred)]
  | parsePackets (index : Index) (poster size : Nat) :
      Leads env server (.moveWritePtr index poster size)
        [.parse index poster, .postRecv index poster]
  | packet (index : Index) (poster : Nat) (rest : CRingBufferT) (bytes : List UInt8)
      (turned : Server.parseTurn env (server.sessions index).recvQ = .packet rest bytes) :
      Leads env server (.parse index poster) [.deliver index poster bytes, .parse index poster]
  | echo (index : Index) (poster : Nat) (bytes : List UInt8) :
      Leads env server (.deliver index poster bytes)
        [.findSend (server.sessions index).sessionId (.ofBytes bytes)]
  | postRecv (index : Index) (poster : Nat) (valid : (server.sessions index).valid = true) :
      Leads env server (.postRecv index poster) [.wsaRecv index poster]
  | release (sessionId : SessionId) :
      Leads env server .releaseSession [.release sessionId, .releaseSession]
  | processAccept (clientSocket : Socket) (index : Index) (rest : List Index)
      (available : server.availableIndices = index :: rest) :
      Leads env server (.processAccept clientSocket)
        [.initializeSession .socket index clientSocket
          (makeSessionId index (server.sessionIdCounter &&& sessionUniqueMask))]
  | store (pc next : InitializePc) (index : Index) (clientSocket : Socket) (sessionId : SessionId)
      (later : pc.next = some next) :
      Leads env server (.initializeSession pc index clientSocket sessionId)
        [.initializeSession next index clientSocket sessionId]
  | stored (pc : InitializePc) (index : Index) (clientSocket : Socket) (sessionId : SessionId)
      (last : pc.next = none) :
      Leads env server (.initializeSession pc index clientSocket sessionId)
        [.bindIOCP index clientSocket sessionId]
  | bound (index : Index) (clientSocket : Socket) (sessionId : SessionId) :
      Leads env server (.bindIOCP index clientSocket sessionId)
        [.announceConnect index clientSocket sessionId]
  | connected (index : Index) (clientSocket : Socket) (sessionId : SessionId) :
      Leads env server (.announceConnect index clientSocket sessionId)
        [.postRecv index clientSocket]

theorem turn_leads (env : Environment) (server : Server) (frame : Frame) (bound : Bool) :
    Leads env server frame (frame.turn env server bound).2 := by
  cases frame with
  | findSend sessionId payload =>
    simp only [turn]
    split
    · next index found => exact .foundSend sessionId payload index found
    · exact .ends _
  | findDisconnect sessionId =>
    simp only [turn]
    split
    · exact .abort _ _
    · exact .ends _
  | send index target pc =>
    have sent : (sendTurn env server index pc).2 ≠ .disconnect → Leads env server
        (.send index target pc) [.send index target (sendTurn env server index pc).2] :=
      Leads.send index target pc
    simp only [turn]
    generalize sendTurn env server index pc = turned at sent ⊢
    obtain ⟨moved, next⟩ := turned
    cases next with
    | idle => exact .ends _
    | disconnect => exact .abort _ _
    | _ => exact sent (by simp)
  | disconnect index pc cleared =>
    cases pc with
    | exchange =>
      simp only [turn, disconnectTurn]
      split
      · next valid => exact .clear index cleared valid
      · exact .ends _
    | close => exact .close index cleared
    | clearSending => exact .clearSending index cleared
    | pushPending => exact .pushPending index cleared
    | readSessionId => exact .readSessionId index cleared
    | pushEvent sessionId => exact .ends _
  | dispatch completion =>
    simp only [turn]
    split
    · exact .abort _ _
    · split
      · next valid => exact .dispatch completion valid
      · exact .ends _
  | checkId completion =>
    simp only [turn, checkIdTurn]
    split
    · exact .ends _
    · split
      · next receive => exact .processRecv completion receive
      · exact .processSend completion
      · exact .ends _
  | moveWritePtr index poster size =>
    simp only [turn, moveWritePtrTurn]
    split
    · exact .abort _ _
    · simp only
      split
      · exact .abort _ _
      · exact .parsePackets index poster size
  | parse index poster =>
    simp only [turn, parseTurn]
    split
    · exact .ends _
    · exact .abort _ _
    · next rest bytes turned => exact .packet index poster rest bytes turned
  | deliver index poster bytes =>
    simp only [turn, deliverTurn]
    split
    · exact .echo index poster bytes
    · exact .ends _
    · exact .ends _
  | postRecv index poster =>
    simp only [turn]
    split
    · next valid => exact .postRecv index poster valid
    · exact .ends _
  | wsaRecv index poster =>
    simp only [turn, wsaRecvTurn]
    split
    · exact .abort _ _
    · simp only
      split
      · exact .ends _
      · exact .abort _ _
  | releaseSession =>
    simp only [turn]
    split
    · exact .ends _
    · next sessionId _ _ => exact .release sessionId
  | release sessionId => exact .ends _
  | processAccept clientSocket =>
    simp only [turn, processAcceptTurn]
    split
    · exact .ends _
    · next index rest available => exact .processAccept clientSocket index rest available
  | initializeSession pc index clientSocket sessionId =>
    simp only [turn]
    split
    · next next later => exact .store pc next index clientSocket sessionId later
    · next last => exact .stored pc index clientSocket sessionId last
  | bindIOCP index clientSocket sessionId =>
    simp only [turn, bindTurn]
    split
    · exact .bound index clientSocket sessionId
    · exact .ends _
  | announceConnect index clientSocket sessionId => exact .connected index clientSocket sessionId

theorem Leads.shape {frame : Frame} {frames : List Frame} (leads : Leads env server frame frames) :
    frames.Pairwise StandsOn ∧ (frame.bottom = false → ∀ next ∈ frames, next.bottom = false) ∧
      (∀ next ∈ frames, next.proper = true) ∧
      (frame.accepting = false → ∀ next ∈ frames, next.accepting = false) := by
  cases leads with
  | send index target pc other =>
    refine ⟨List.pairwise_singleton _ _, by simp [bottom], ?_, by simp [accepting]⟩
    generalize (sendTurn env server index pc).2 = next at other ⊢
    cases next <;> simp [proper] at other ⊢
  | _ => simp [StandsOn, waits, bottom, proper, accepting, startDisconnect]

end Frame

namespace Machine

variable {env : Environment} {Thread : Type} [DecidableEq Thread]

theorem runFrame_threads {machine : Machine Thread} {thread : Option Thread} {frame : Frame}
    {rest : List Frame} (bound : Bool) {other : Option Thread} {below : Frame}
    (member : below ∈ (machine.runFrame env thread bound frame rest).threads other) :
    below ∈ (frame.turn env machine.server bound).2 ∨
      if other = thread then below ∈ rest else below ∈ machine.threads other := by
  by_cases same : other = thread
  · subst same
    simpa [runFrame] using member
  · exact .inr (by simpa [runFrame, same] using member)

theorem runFrame_new_or_old {machine : Machine Thread} {thread : Option Thread} {frame : Frame}
    {rest : List Frame} (bound : Bool) (top : machine.threads thread = frame :: rest)
    {other : Option Thread} {below : Frame}
    (member : below ∈ (machine.runFrame env thread bound frame rest).threads other) :
    below ∈ (frame.turn env machine.server bound).2 ∨ below ∈ machine.threads other := by
  rcases runFrame_threads bound member with new | old
  · exact .inl new
  · split at old
    · next same =>
      rw [same, top]
      exact .inr (List.mem_cons_of_mem _ old)
    · exact .inr old

theorem runFrame_keeps {machine : Machine Thread} {thread : Option Thread} {frame : Frame}
    {rest : List Frame} (bound : Bool) (top : machine.threads thread = frame :: rest)
    {other : Option Thread} {below : Frame} (member : below ∈ machine.threads other)
    (differs : below ≠ frame) :
    below ∈ (machine.runFrame env thread bound frame rest).threads other := by
  by_cases same : other = thread
  · subst same
    rw [top] at member
    have kept := List.mem_of_ne_of_mem differs member
    simp [runFrame, kept]
  · simpa [runFrame, same] using member

theorem Moves.accepted {machine next : Machine Thread} {action : Turn Thread}
    (moves : Moves env machine action next) :
    machine.server.accepted ≤ next.server.accepted := by
  cases moves with
  | run thread bound frame rest top =>
    exact Nat.le_of_eq (Frame.turn_counters env machine.server frame bound).1.symm
  | accept idle => exact Nat.le_succ _
  | _ => exact Nat.le_refl _

structure Shaped (machine : Machine Thread) : Prop where
  stacked : ∀ thread, (machine.threads thread).Pairwise Frame.StandsOn
  proper : ∀ thread, ∀ frame ∈ machine.threads thread, frame.proper = true
  workers : ∀ thread : Thread, ∀ frame ∈ machine.threads (some thread), frame.accepting = false

section Shaped

variable {machine next : Machine Thread} (shaped : Shaped machine) {thread other : Option Thread}
  {frame below : Frame} {rest : List Frame}

include shaped

omit [DecidableEq Thread] in
theorem Shaped.standing (top : machine.threads thread = frame :: rest) (member : below ∈ rest) :
    frame.bottom = false ∧ below.waits = true := by
  have stacked := shaped.stacked thread
  rw [top] at stacked
  exact List.rel_of_pairwise_cons stacked member

omit [DecidableEq Thread] in
theorem Shaped.last (top : machine.threads thread = frame :: rest) (bottom : frame.bottom = true) :
    rest = [] := by
  refine List.eq_nil_iff_forall_not_mem.mpr fun below member => ?_
  have stands := (shaped.standing top member).1
  rw [bottom] at stands
  cases stands

omit [DecidableEq Thread] in
theorem Shaped.acceptor (member : frame ∈ machine.threads thread)
    (accepting : frame.accepting = true) : thread = none := by
  cases thread with
  | none => rfl
  | some worker =>
    have other := shaped.workers worker frame member
    rw [accepting] at other
    cases other

theorem Shaped.alone (top : machine.threads thread = frame :: rest)
    (bottom : frame.bottom = true) (accepting : frame.accepting = true)
    (member : if other = thread then below ∈ rest else below ∈ machine.threads other) :
    below ∈ machine.threads other ∧ below.accepting = false := by
  have first := shaped.acceptor (by rw [top]; exact List.mem_cons_self) accepting
  subst first
  split at member
  · rw [shaped.last top bottom] at member
    cases member
  · next worker =>
    obtain ⟨caller, rfl⟩ := Option.ne_none_iff_exists'.mp worker
    exact ⟨member, shaped.workers caller below member⟩

end Shaped

theorem Shaped.moves {machine next : Machine Thread} {action : Turn Thread}
    (shaped : Shaped machine) (moves : Moves env machine action next) : Shaped next := by
  have begun (thread : Option Thread) (frames : List Frame)
      (stacked : frames.Pairwise Frame.StandsOn)
      (proper : ∀ frame ∈ frames, frame.proper = true)
      (workers : thread ≠ none → ∀ frame ∈ frames, frame.accepting = false)
      (server : Server) (history : History) :
      Shaped { machine with
        server := server
        threads := Function.update machine.threads thread frames
        history := history } := by
    refine ⟨fun other => ?_, fun other => ?_, fun other => ?_⟩ <;> simp only [Function.update_apply]
    · split
      · exact stacked
      · exact shaped.stacked other
    · split
      · exact proper
      · exact shaped.proper other
    · split
      · next here => exact workers (here ▸ Option.some_ne_none other)
      · exact shaped.workers other
  cases moves with
  | run thread bound frame rest top =>
    obtain ⟨stacked, raised, proper, workers⟩ :=
      (Frame.turn_leads env machine.server frame bound).shape
    have had {below : Frame} (member : below ∈ frame :: rest) : below ∈ machine.threads thread := by
      rwa [top]
    refine begun thread _ ?_ (fun below member => ?_) (fun worker below member => ?_) _ _
    · have before := shaped.stacked thread
      rw [top, List.pairwise_cons] at before
      refine List.pairwise_append.mpr ⟨stacked, before.2, fun above new below old => ?_⟩
      obtain ⟨stands, waits⟩ := before.1 below old
      exact ⟨raised stands above new, waits⟩
    · rcases List.mem_append.mp member with new | kept
      · exact proper below new
      · exact shaped.proper thread below (had (List.mem_cons_of_mem _ kept))
    · obtain ⟨caller, rfl⟩ := Option.ne_none_iff_exists'.mp worker
      have quiet := shaped.workers caller
      rcases List.mem_append.mp member with new | kept
      · exact workers (quiet frame (had List.mem_cons_self)) below new
      · exact quiet below (had (List.mem_cons_of_mem _ kept))
  | accept idle => exact begun none _ (by simp [Frame.StandsOn, Frame.bottom, Frame.waits]) (by simp [Frame.proper]) (by simp) _ _
  | acceptFailed idle => exact begun none _ (by simp) (by simp [Frame.proper]) (by simp) _ _
  | receive position bytes request found receive fits =>
    exact ⟨shaped.stacked, shaped.proper, shaped.workers⟩
  | transmit position count request found send some fits =>
    exact ⟨shaped.stacked, shaped.proper, shaped.workers⟩
  | fail position request found => exact ⟨shaped.stacked, shaped.proper, shaped.workers⟩
  | worker thread position completion found idle =>
    exact begun (some thread) _ (by simp) (by simp [Frame.proper]) (by simp [Frame.accepting]) _ _
  | requestSendMsg thread sessionId payload idle =>
    exact begun (some thread) _ (by simp) (by simp [Frame.proper]) (by simp [Frame.accepting]) _ _
  | requestDisconnectSession thread sessionId idle =>
    exact begun (some thread) _ (by simp) (by simp [Frame.proper]) (by simp [Frame.accepting]) _ _

omit [DecidableEq Thread] in
theorem start_shaped : Shaped (start env : Machine Thread) :=
  ⟨fun _ => List.Pairwise.nil, fun _ _ member => absurd member List.not_mem_nil,
    fun _ _ member => absurd member List.not_mem_nil⟩

end Machine

end MiniGames
