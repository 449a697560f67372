import MiniGames.Network.ReceiveStream
import MiniGames.Network.SendThreads

set_option autoImplicit false

namespace MiniGames

open Circular CRingBufferT Server

-- The statements of ProcessRecv, ParsePackets and PostRecv.
inductive ReceivePc where
  | moveWritePtr (bytesTransferred : Nat)
  | parse
  | deliver (bytes : List UInt8)
  | postRecv
  | wsaRecv
  deriving DecidableEq

-- The one receive is with Winsock, in the completion queue or with a worker.
inductive Receive (Thread : Type) where
  | posted (segments : List Segment)
  -- A completion without bytes stands for a failed one too: WorkerThread treats both alike.
  | completed (bytesTransferred : Nat)
  | handled (thread : Thread) (pc : ReceivePc)
  | ended
  deriving DecidableEq

structure SessionState (Thread : Type) where
  send : SendState Thread
  receive : Receive Thread
  -- Not in the source: what Winsock has received and the packets that ParsePackets has taken off.
  received : List UInt8
  taken : List (List UInt8)

inductive SessionAction (Thread : Type) where
  -- RequestSendMsg from the game layer
  | call (thread : Thread) (payload : Payload)
  | run (thread : Thread) (accepted : Bool) (garbage : Nat)
  -- A WSASend completes and a worker enters ProcessSend.
  | sent (thread : Thread) (position bytesTransferred : Nat)
  -- The posted receive completes, and a worker takes the completion.
  | receive (bytes : List UInt8)
  | worker (thread : Thread)
  -- The worker that handles the receive executes a statement of its own.
  | statement (accepted : Bool)
  -- DisconnectSessionInternal of another thread, and its store to `_sending`
  | invalidate
  | clearSending

namespace SessionState

variable (env : Environment) {Thread : Type} [DecidableEq Thread]

def session (state : SessionState Thread) : CSession := state.send.session

def modify (state : SessionState Thread) (change : CSession → CSession) : SessionState Thread :=
  { state with send := { state.send with session := change state.send.session } }

def enter (state : SessionState Thread) (thread : Thread) (pc : SendPc) : SessionState Thread :=
  { state with send := state.send.enter thread pc }

/-- Initialize has prepared the session, and the accept thread calls PostRecv. -/
def start (recvMemory sendMemory : Option (Nat → UInt8)) (sessionId : SessionId) (socket : Socket)
    (acceptThread : Thread) : SessionState Thread :=
  { send := .start recvMemory sendMemory sessionId socket
    receive := .handled acceptThread .postRecv
    received := []
    taken := [] }

def free (state : SessionState Thread) (thread : Thread) : Bool :=
  decide (state.send.threads thread = .idle) &&
    match state.receive with
    | .handled other _ => decide (other ≠ thread)
    | _ => true

def receiveTurn (state : SessionState Thread) (thread : Thread) (accepted : Bool) :
    ReceivePc → SessionState Thread
  | .moveWritePtr bytesTransferred =>
      let moved := state.session.recvQ.moveWritePtr bytesTransferred
      let state := state.modify (CSession.storeRecvQ moved.1)
      if moved.2.returned ≠ bytesTransferred then
        { state.enter thread .disconnect with receive := .ended }
      else { state with receive := .handled thread .parse }
  | .parse =>
      match Server.parseTurn env state.session.recvQ with
      | .stop => { state with receive := .handled thread .postRecv }
      | .reject => { state.enter thread .disconnect with receive := .handled thread .postRecv }
      | .packet rest bytes =>
          { state.modify (CSession.storeRecvQ rest) with
            receive := .handled thread (.deliver bytes)
            taken := state.taken ++ [bytes] }
  | .deliver bytes =>
      match env.architectureType with
      -- EchoTestSend names the session by its own id, so FindSession returns it.
      | .echoTest =>
          { state.enter thread (.checkValid (.ofBytes bytes)) with receive := .handled thread .parse }
      | _ => { state with receive := .handled thread .parse }
  | .postRecv =>
      { state with receive := if state.session.valid then .handled thread .wsaRecv else .ended }
  | .wsaRecv =>
      let state := state.modify CSession.armRecv
      let segments := recvBuffers state.session.recvQ
      if segments.isEmpty || !accepted then
        { state.enter thread .disconnect with receive := .ended }
      else { state with receive := .posted segments }

def dispatch (state : SessionState Thread) (thread : Thread) (bytesTransferred : Nat) :
    SessionState Thread :=
  let overlappedEx := state.session.recvOverlapped
  if bytesTransferred = 0 then { state.enter thread .disconnect with receive := .ended }
  else if state.session.valid = false then { state with receive := .ended }
  else if overlappedEx.sessionId ≠ state.session.sessionId then { state with receive := .ended }
  else
    match overlappedEx.operation with
    | .recv => { state with receive := .handled thread (.moveWritePtr bytesTransferred) }
    | .send => { state.enter thread (.sentValid bytesTransferred) with receive := .ended }
    | .accept => { state with receive := .ended }

def step (state : SessionState Thread) : SessionAction Thread → Option (SessionState Thread)
  | .call thread payload => do
      -- No game layer runs beside an echo server.
      guard (state.free thread = true ∧ env.architectureType ≠ .echoTest)
      pure (state.enter thread (.checkValid payload))
  | .run thread accepted garbage =>
      some { state with send := state.send.run thread accepted garbage }
  | .sent thread position bytesTransferred => do
      guard (state.free thread = true)
      let request ← state.send.outstanding[position]?
      guard (0 < bytesTransferred ∧ bytesTransferred ≤ total request.segments)
      pure { state with
        send := { state.send.enter thread (.sentValid bytesTransferred) with
          outstanding := state.send.outstanding.eraseIdx position
          transmitted := state.send.transmitted ++
            (gather state.session.sendQ.memory request.segments).take bytesTransferred } }
  | .receive bytes =>
      match state.receive with
      | .posted segments => do
          -- Winsock stores bytes only where there is memory.
          guard (bytes.length ≤ total segments ∧
            (bytes = [] ∨ state.session.recvQ.buffer.isSome = true))
          pure { state.modify fun session =>
              session.storeRecvQ (fill session.recvQ segments bytes) with
            receive := .completed bytes.length
            received := state.received ++ bytes }
      | _ => none
  | .worker thread =>
      match state.receive with
      | .completed bytesTransferred => do
          guard (state.free thread = true)
          pure (state.dispatch thread bytesTransferred)
      | _ => none
  | .statement accepted =>
      match state.receive with
      | .handled thread pc => do
          -- What the statement before this one called has returned.
          guard (state.send.threads thread = .idle)
          pure (state.receiveTurn env thread accepted pc)
      | _ => none
  | .invalidate => some (state.modify (CSession.storeValid false))
  | .clearSending => do
      guard (state.session.valid = false)
      pure (state.modify (CSession.storeSending false))

variable {env}

theorem free_idle {state : SessionState Thread} {thread : Thread} (free : state.free thread = true) :
    state.send.threads thread = .idle := by
  simp only [SessionState.free, Bool.and_eq_true, decide_eq_true_eq] at free
  exact free.1

theorem receiveTurn_enqueued (state : SessionState Thread) (thread : Thread) (accepted : Bool)
    (pc : ReceivePc) :
    (state.receiveTurn env thread accepted pc).send.enqueued = state.send.enqueued := by
  cases pc with
  | moveWritePtr size =>
    simp only [receiveTurn]
    split <;> rfl
  | parse =>
    simp only [receiveTurn]
    split <;> rfl
  | deliver bytes =>
    simp only [receiveTurn]
    split <;> rfl
  | postRecv => rfl
  | wsaRecv =>
    simp only [receiveTurn]
    split <;> rfl

theorem dispatch_enqueued (state : SessionState Thread) (thread : Thread) (size : Nat) :
    (state.dispatch thread size).send.enqueued = state.send.enqueued := by
  simp only [dispatch]
  split
  · rfl
  split
  · rfl
  split
  · rfl
  split <;> rfl

def echoServer : Environment :=
  { oneSlot with
    architectureType := .echoTest
    header := sizeOnlyHeader }

inductive Moves (env : Environment) (state : SessionState Thread) : SessionState Thread → Prop where
  | call (thread : Thread) (payload : Payload) (free : state.free thread = true)
      (mode : env.architectureType ≠ .echoTest) :
      Moves env state (state.enter thread (.checkValid payload))
  | run (thread : Thread) (accepted : Bool) (garbage : Nat) :
      Moves env state { state with send := state.send.run thread accepted garbage }
  | sent (thread : Thread) (position size : Nat) (bytes : List UInt8)
      (free : state.free thread = true) :
      Moves env state { state with
        send := { state.send.enter thread (.sentValid size) with
          outstanding := state.send.outstanding.eraseIdx position
          transmitted := state.send.transmitted ++ bytes } }
  | receive (segments : List Segment) (bytes : List UInt8)
      (posted : state.receive = .posted segments) (fits : bytes.length ≤ total segments)
      (memory : bytes = [] ∨ state.session.recvQ.buffer.isSome = true) :
      Moves env state { state.modify fun session =>
          session.storeRecvQ (fill session.recvQ segments bytes) with
        receive := .completed bytes.length
        received := state.received ++ bytes }
  | worker (thread : Thread) (size : Nat) (completed : state.receive = .completed size)
      (free : state.free thread = true) : Moves env state (state.dispatch thread size)
  | statement (thread : Thread) (pc : ReceivePc) (accepted : Bool)
      (handled : state.receive = .handled thread pc) (idle : state.send.threads thread = .idle) :
      Moves env state (state.receiveTurn env thread accepted pc)
  | invalidate : Moves env state (state.modify (CSession.storeValid false))
  | clearSending (invalid : state.session.valid = false) :
      Moves env state (state.modify (CSession.storeSending false))

theorem step_moves {state next : SessionState Thread} {action : SessionAction Thread}
    (taken : state.step env action = some next) : Moves env state next := by
  cases action with
  | call thread payload =>
    obtain ⟨_, guarded, taken⟩ := Option.bind_eq_some_iff.mp taken
    cases taken
    obtain ⟨free, mode⟩ := (Option.guard_eq_some' _).mp guarded
    exact .call thread payload free mode
  | run thread accepted garbage =>
    cases taken
    exact .run thread accepted garbage
  | sent thread position size =>
    obtain ⟨_, guarded, taken⟩ := Option.bind_eq_some_iff.mp taken
    obtain ⟨request, _, taken⟩ := Option.bind_eq_some_iff.mp taken
    obtain ⟨_, _, taken⟩ := Option.bind_eq_some_iff.mp taken
    cases taken
    exact .sent thread position size _ ((Option.guard_eq_some' _).mp guarded)
  | receive bytes =>
    simp only [step] at taken
    split at taken
    · next segments posted =>
      obtain ⟨_, guarded, taken⟩ := Option.bind_eq_some_iff.mp taken
      cases taken
      obtain ⟨fits, memory⟩ := (Option.guard_eq_some' _).mp guarded
      exact .receive segments bytes posted fits memory
    · cases taken
  | worker thread =>
    simp only [step] at taken
    split at taken
    · next size completed =>
      obtain ⟨_, guarded, taken⟩ := Option.bind_eq_some_iff.mp taken
      cases taken
      exact .worker thread size completed ((Option.guard_eq_some' _).mp guarded)
    · cases taken
  | statement accepted =>
    simp only [step] at taken
    split at taken
    · next thread pc handled =>
      obtain ⟨_, guarded, taken⟩ := Option.bind_eq_some_iff.mp taken
      cases taken
      exact .statement thread pc accepted handled ((Option.guard_eq_some' _).mp guarded)
    · cases taken
  | invalidate =>
    cases taken
    exact .invalidate
  | clearSending =>
    obtain ⟨_, guarded, taken⟩ := Option.bind_eq_some_iff.mp taken
    cases taken
    exact .clearSending ((Option.guard_eq_some' _).mp guarded)

end SessionState

end MiniGames
