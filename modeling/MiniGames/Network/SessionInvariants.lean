import MiniGames.Network.Server
import MiniGames.Shared.Runs

set_option autoImplicit false

namespace MiniGames

open Circular Runs

inductive Statement (session : CSession) : CSession → Prop where
  | invalidate : Statement session (session.storeValid false)
  | dropSocket : Statement session { session with socket := none }
  | storeSending (sending : Bool) : Statement session (session.storeSending sending)
  | armRecv : Statement session session.armRecv
  | armSend : Statement session session.armSend
  | moveWritePtr (size : Nat) :
      Statement session (session.storeRecvQ (session.recvQ.moveWritePtr size).1)
  | dequeue (size : Nat) :
      Statement session (session.storeRecvQ (session.recvQ.dequeue true size).1)
  | fill (segments : List Segment) (bytes : List UInt8) :
      Statement session { session with recvQ := Server.fill session.recvQ segments bytes }
  | enqueue (data : Option (List UInt8)) (size : Nat) :
      Statement session (session.storeSendQ (session.sendQ.enqueue data size).1)
  | consume (size : Nat) : Statement session (session.storeSendQ (session.sendQ.consume size).1)

theorem statement_incarnation {session next : CSession} (statement : Statement session next) :
    next.incarnation = session.incarnation := by
  cases statement <;> rfl

namespace Server

theorem modify_sessions (server : Server) (index other : Index) (change : CSession → CSession) :
    (server.modify index change).sessions other =
      if other = index then change (server.sessions index) else server.sessions other := by
  simp [modify, Function.update_apply]

@[simp] theorem modify_same (server : Server) (index : Index) (change : CSession → CSession) :
    (server.modify index change).sessions index = change (server.sessions index) := by
  simp [modify]

/-- A property of the sessions and the I/O in flight that survives everything but Initialize. -/
structure Stable (env : Environment) (property : Server → Prop) : Prop where
  statement : ∀ {server} index {session}, property server →
    Statement (server.sessions index) session → property (server.modify index fun _ => session)
  closesocket : ∀ {server} socket, property server → property (server.closesocket socket)
  post : ∀ {server} index operation segments, property server →
    property (server.post env index operation segments).1
  complete : ∀ {server : Server} {position request} result bytes, property server →
    server.outstanding[position]? = some request →
    property (server.complete position ⟨request, result, bytes⟩)
  dequeueCompletion : ∀ {server} position, property server →
    property (server.dequeueCompletion position)
  bookkeeping : ∀ {server next : Server}, property server → next.sessions = server.sessions →
    next.outstanding = server.outstanding → next.completions = server.completions → property next

def released (env : Environment) (server : Server) : Server :=
  { server with accepted := server.accepted + 1 }.releaseSession env

def Every (property : CSession → Prop) (server : Server) : Prop :=
  ∀ index, property (server.sessions index)

variable {env : Environment} {server : Server}

theorem post_sessions (env : Environment) (server : Server) (index : Index)
    (operation : IOOperation) (segments : List Segment) :
    (server.post env index operation segments).1.sessions = server.sessions := by
  simp only [post]
  split
  · split <;> rfl
  · rfl

theorem Every.modify {property : CSession → Prop} (every : server.Every property) {index : Index}
    {change : CSession → CSession}
    (changed : property (server.sessions index) → property (change (server.sessions index))) :
    (server.modify index change).Every property := by
  intro other
  rw [modify_sessions]
  split
  · exact changed (every index)
  · exact every other

theorem slots_stable (env : Environment) (property : Index → CSession → Prop)
    (closed : ∀ index session next, Statement session next → property index session →
      property index next) :
    Stable env fun server => ∀ index, property index (server.sessions index) where
  statement := by
    intro server index session slots statement other
    rw [modify_sessions]
    split
    · next same =>
      rw [same]
      exact closed index _ _ statement (slots index)
    · exact slots other
  closesocket _ slots := slots
  post index operation segments slots other := by
    rw [post_sessions]
    exact slots other
  complete _ _ slots _ := slots
  dequeueCompletion _ slots := slots
  bookkeeping slots same _ _ other := by
    rw [same]
    exact slots other

theorem Every.stable {property : CSession → Prop}
    (closed : ∀ session next, Statement session next → property session → property next) :
    Stable env (Every property) :=
  slots_stable env (fun _ => property) fun _ => closed

theorem parseTurn_packet {ring rest : CRingBufferT} {bytes : List UInt8}
    (turn : parseTurn env ring = .packet rest bytes) :
    ∃ size, rest = (ring.dequeue true size).1 := by
  simp only [parseTurn] at turn
  split at turn
  · cases turn
  split at turn
  · cases turn
  split at turn
  all_goals
    split at turn
    · cases turn
    split at turn
    · cases turn
    split at turn
    · cases turn
    · cases turn; exact ⟨_, rfl⟩

namespace Stable

variable {property : Server → Prop} (stable : Stable env property) (index : Index)

include stable

theorem close (holds : property server) : property (server.close index) := by
  simp only [Server.close]
  cases (server.sessions index).socket with
  | none => exact holds
  | some socket => exact stable.statement index (stable.closesocket socket holds) .dropSocket

omit index in
theorem announceDisconnect (sessionId : SessionId) (holds : property server) :
    property (server.announceDisconnect env sessionId) := by
  simp only [Server.announceDisconnect]
  split
  · exact stable.bookkeeping holds rfl rfl rfl
  · exact holds

theorem disconnectSessionInternal (holds : property server) :
    property (server.disconnectSessionInternal env index).1 := by
  simp only [Server.disconnectSessionInternal]
  split
  · have closed := stable.close index (stable.statement index holds .invalidate)
    have idle := stable.statement index closed (.storeSending false)
    exact stable.announceDisconnect _ (stable.bookkeeping idle rfl rfl rfl)
  · exact holds

theorem postRecv (holds : property server) : property (server.postRecv env index) := by
  simp only [Server.postRecv]
  split
  · have armed := stable.statement index holds .armRecv
    split
    · exact stable.disconnectSessionInternal index armed
    · have posted := stable.post index .recv
        (recvBuffers ((server.modify index CSession.armRecv).sessions index).recvQ) armed
      split
      · exact posted
      · exact stable.disconnectSessionInternal index posted
  · exact holds

theorem postSend (holds : property server) : property (server.postSend env index) := by
  have idle {server : Server} (holds : property server) :
      property (server.modify index (CSession.storeSending false)) :=
    stable.statement index holds (.storeSending false)
  have taken := stable.statement index holds (.storeSending true)
  have armed := stable.statement index taken .armSend
  simp only [Server.postSend]
  split
  · split
    · exact holds
    · split
      · exact idle taken
      · split
        · exact idle armed
        · have posted := fun segments => stable.post index .send segments armed
          split
          · exact posted _
          · exact stable.disconnectSessionInternal index (idle (posted _))
  · exact holds

theorem requestSendMsg (sessionId : SessionId) (data : Option (List UInt8)) (length : Int)
    (holds : property server) : property (server.requestSendMsg env sessionId data length) := by
  simp only [Server.requestSendMsg]
  split
  · next index _ =>
    have stored := stable.statement index holds (.enqueue data (intToSize length))
    split
    · split
      · exact stable.disconnectSessionInternal index stored
      · exact stable.postSend index stored
    · exact holds
  · exact holds

theorem deliverPacket (bytes : List UInt8) (holds : property server) :
    property (server.deliverPacket env index bytes) := by
  simp only [Server.deliverPacket]
  split
  · exact stable.requestSendMsg _ _ _ holds
  · exact stable.bookkeeping holds rfl rfl rfl
  · exact holds

theorem parseLoop (turns : Nat) (holds : property server) :
    property (parseLoop env turns server index) := by
  induction turns generalizing server with
  | zero => exact holds
  | succ turns ih =>
    simp only [Server.parseLoop]
    split
    · exact holds
    · exact stable.disconnectSessionInternal index holds
    · next rest bytes turn =>
      obtain ⟨size, rfl⟩ := parseTurn_packet turn
      exact ih (stable.deliverPacket index bytes (stable.statement index holds (.dequeue size)))

theorem processRecv (bytes : Nat) (holds : property server) :
    property (server.processRecv env index bytes) := by
  simp only [Server.processRecv]
  split
  · exact stable.disconnectSessionInternal index holds
  · have moved := stable.statement index holds (.moveWritePtr bytes)
    split
    · exact stable.disconnectSessionInternal index moved
    · exact stable.postRecv index (stable.parseLoop index _ moved)

theorem resumeSend (segments : List Segment) (holds : property server) :
    property (server.resumeSend env index segments) := by
  have idle {server : Server} (holds : property server) :
      property (server.modify index (CSession.storeSending false)) :=
    stable.statement index holds (.storeSending false)
  have posted := stable.post index .send segments holds
  simp only [Server.resumeSend]
  split
  · split
    · exact stable.postSend index (idle holds)
    · exact idle holds
  · split
    · exact posted
    · exact stable.disconnectSessionInternal index (idle posted)

theorem processSend (bytes : Nat) (holds : property server) :
    property (server.processSend env index bytes) := by
  simp only [Server.processSend]
  split
  · have consumed := stable.statement index holds (.consume bytes)
    split
    · exact stable.disconnectSessionInternal index consumed
    · split
      · exact stable.resumeSend index _ (stable.statement index consumed .armSend)
      · exact stable.resumeSend index _ consumed
  · exact holds

theorem workerThread (completion : Completion) (holds : property server) :
    property (server.workerThread env completion) := by
  simp only [Server.workerThread]
  split
  · exact stable.disconnectSessionInternal _ holds
  · exact holds
  · exact stable.processRecv _ _ holds
  · exact stable.processSend _ _ holds

theorem releaseOne (sessionId : SessionId) (holds : property server) :
    property (server.releaseOne env sessionId) := by
  simp only [Server.releaseOne]
  split
  · exact stable.bookkeeping (stable.close _ holds) rfl rfl rfl
  · exact holds

theorem releaseAll (stack : List SessionId) (holds : property server) :
    property (releaseAll env stack server) := by
  induction stack generalizing server with
  | nil => exact holds
  | cons sessionId rest ih =>
    exact ih (stable.releaseOne sessionId (stable.bookkeeping holds rfl rfl rfl))

theorem processAccept (socket : Socket) (bound : Bool) (holds : property server)
    (initialized : ∀ index rest sessionId, server.availableIndices = index :: rest →
      property server → property (server.modify index
        (CSession.initializeSession (some socket) sessionId socket))) :
    property (server.processAccept env socket bound) := by
  simp only [Server.processAccept]
  split
  · exact stable.closesocket socket holds
  · next index rest free =>
    have ready := initialized index rest
      (makeSessionId index (server.sessionIdCounter &&& sessionUniqueMask)) free holds
    split
    · refine stable.postRecv index ?_
      simp only [announceConnect]
      split <;> exact stable.bookkeeping ready rfl rfl rfl
    · refine stable.closesocket socket (stable.bookkeeping (stable.close index ?_) rfl rfl rfl)
      exact stable.bookkeeping ready rfl rfl rfl

/-- Initialize is left to the caller: its slot is the first free one after ReleaseSession. -/
theorem step {action : Action} {next : Server}
    (initialized : ∀ bound, action = .accept bound → ∀ index rest sessionId,
      (server.released env).availableIndices = index :: rest → property (server.released env) →
      property ((server.released env).modify index
        (CSession.initializeSession (some (server.accepted + 1)) sessionId (server.accepted + 1))))
    (holds : property server) (taken : server.step env action = some next) : property next := by
  cases action with
  | accept bound =>
    cases taken
    have counted : property { server with accepted := server.accepted + 1 } :=
      stable.bookkeeping holds rfl rfl rfl
    have released : property (server.released env) :=
      stable.releaseAll server.pendingDisconStack counted
    exact stable.processAccept _ bound released (initialized bound rfl)
  | acceptFailed =>
    cases taken
    exact stable.releaseAll _ holds
  | receive position bytes =>
    simp only [Server.step, Option.bind_eq_bind, Option.bind_eq_some_iff] at taken
    obtain ⟨request, found, _, _, taken⟩ := taken
    cases taken
    have filled : property (server.modify request.index fun session =>
        { session with recvQ := fill session.recvQ request.segments bytes }) :=
      stable.statement request.index holds (.fill _ _)
    exact stable.complete true bytes.length filled found
  | transmit position count =>
    simp only [Server.step, Option.bind_eq_bind, Option.bind_eq_some_iff] at taken
    obtain ⟨request, found, _, _, taken⟩ := taken
    cases taken
    exact stable.complete true count holds found
  | fail position =>
    simp only [Server.step, Option.bind_eq_bind, Option.bind_eq_some_iff] at taken
    obtain ⟨request, found, taken⟩ := taken
    cases taken
    exact stable.complete false 0 holds found
  | worker position =>
    simp only [Server.step, Option.bind_eq_bind, Option.bind_eq_some_iff] at taken
    obtain ⟨completion, _, taken⟩ := taken
    cases taken
    exact stable.workerThread completion (stable.dequeueCompletion position holds)
  | requestSendMsg sessionId data length =>
    cases taken
    exact stable.requestSendMsg sessionId data length holds
  | requestDisconnectSession sessionId =>
    cases taken
    simp only [Server.requestDisconnectSession]
    split
    · exact stable.disconnectSessionInternal _ holds
    · exact holds

end Stable

theorem Every.reachable {property : CSession → Prop}
    (closed : ∀ session next, Statement session next → property session → property next)
    (initialized : ∀ session socket sessionId incarnation, property session →
      property (session.initializeSession socket sessionId incarnation))
    (constructed : ∀ recvMemory sendMemory, property (.new recvMemory sendMemory))
    (reached : Reachable (Server.step env) Always (.start env) server) : server.Every property :=
  reached.invariant (fun _ => constructed _ _) (by
    intro server action next every _ taken
    refine (Every.stable closed).step ?_ every taken
    intro bound _ index rest sessionId _ released
    exact released.modify (initialized _ _ _ _))

end Server

end MiniGames
