import MiniGames.Network.SessionInvariants

set_option autoImplicit false

namespace MiniGames

open Circular

namespace Server

structure Alike (server next : Server) : Prop where
  valid : ∀ index, (next.sessions index).valid = (server.sessions index).valid
  socket : ∀ index, (next.sessions index).socket = (server.sessions index).socket
  sessionId : ∀ index, (next.sessions index).sessionId = (server.sessions index).sessionId
  availableIndices : next.availableIndices = server.availableIndices
  pendingDisconStack : next.pendingDisconStack = server.pendingDisconStack
  accepted : next.accepted = server.accepted
  closed : next.closed = server.closed

namespace Alike

variable {server : Server}

theorem modify (index : Index) {change : CSession → CSession}
    (valid : (change (server.sessions index)).valid = (server.sessions index).valid)
    (socket : (change (server.sessions index)).socket = (server.sessions index).socket)
    (sessionId : (change (server.sessions index)).sessionId = (server.sessions index).sessionId) :
    Alike server (server.modify index change) := by
  refine ⟨fun other => ?_, fun other => ?_, fun other => ?_, rfl, rfl, rfl, rfl⟩ <;>
    rw [modify_sessions] <;> split
  · next same => rw [same, valid]
  · rfl
  · next same => rw [same, socket]
  · rfl
  · next same => rw [same, sessionId]
  · rfl

theorem post (env : Environment) (index : Index) (operation : IOOperation)
    (segments : List Segment) : Alike server (server.post env index operation segments).1 := by
  simp only [Server.post]
  split
  · split <;> exact ⟨fun _ => rfl, fun _ => rfl, fun _ => rfl, rfl, rfl, rfl, rfl⟩
  · exact ⟨fun _ => rfl, fun _ => rfl, fun _ => rfl, rfl, rfl, rfl, rfl⟩

theorem pushNetworkEvent (event : NetworkEvent) : Alike server (server.pushNetworkEvent event) :=
  ⟨fun _ => rfl, fun _ => rfl, fun _ => rfl, rfl, rfl, rfl, rfl⟩

theorem announceConnect (env : Environment) (sessionId : SessionId) :
    Alike server (server.announceConnect env sessionId) := by
  simp only [Server.announceConnect]
  split <;> exact ⟨fun _ => rfl, fun _ => rfl, fun _ => rfl, rfl, rfl, rfl, rfl⟩

theorem complete (position : Nat) (completion : Completion) :
    Alike server (server.complete position completion) :=
  ⟨fun _ => rfl, fun _ => rfl, fun _ => rfl, rfl, rfl, rfl, rfl⟩

theorem dequeueCompletion (position : Nat) : Alike server (server.dequeueCompletion position) :=
  ⟨fun _ => rfl, fun _ => rfl, fun _ => rfl, rfl, rfl, rfl, rfl⟩

end Alike

theorem Alike.trans {first second third : Server} (before : Alike first second)
    (after : Alike second third) : Alike first third where
  valid index := (after.valid index).trans (before.valid index)
  socket index := (after.socket index).trans (before.socket index)
  sessionId index := (after.sessionId index).trans (before.sessionId index)
  availableIndices := after.availableIndices.trans before.availableIndices
  pendingDisconStack := after.pendingDisconStack.trans before.pendingDisconStack
  accepted := after.accepted.trans before.accepted
  closed := after.closed.trans before.closed

structure Within (index : Index) (server next : Server) : Prop extends Alike server next where
  others : ∀ other, other ≠ index → next.sessions other = server.sessions other
  eventQueue : next.eventQueue = server.eventQueue

/-- A handler for a slot that ends with a disconnect of it, or without one. -/
def Ends (env : Environment) (index : Index) (server next : Server) : Prop :=
  Within index server next ∨ ∃ middle, Within index server middle ∧
    next = (middle.disconnectSessionInternal env index).1

section Ends

variable {env : Environment} {index : Index} {server middle next : Server}

theorem Within.refl (index : Index) (server : Server) : Within index server server :=
  ⟨⟨fun _ => rfl, fun _ => rfl, fun _ => rfl, rfl, rfl, rfl, rfl⟩, fun _ _ => rfl, rfl⟩

theorem Within.trans (first : Within index server middle) (second : Within index middle next) :
    Within index server next where
  toAlike := first.toAlike.trans second.toAlike
  others other apart := (second.others other apart).trans (first.others other apart)
  eventQueue := second.eventQueue.trans first.eventQueue

theorem Within.modify {change : CSession → CSession}
    (valid : (change (server.sessions index)).valid = (server.sessions index).valid)
    (socket : (change (server.sessions index)).socket = (server.sessions index).socket)
    (sessionId : (change (server.sessions index)).sessionId = (server.sessions index).sessionId) :
    Within index server (server.modify index change) where
  toAlike := .modify index valid socket sessionId
  others other apart := by rw [modify_sessions, if_neg apart]
  eventQueue := rfl

theorem Within.post (env : Environment) (server : Server) (index : Index)
    (operation : IOOperation) (segments : List Segment) :
    Within index server (server.post env index operation segments).1 where
  toAlike := .post env index operation segments
  others other _ := by rw [post_sessions]
  eventQueue := by
    simp only [Server.post]
    split
    · split <;> rfl
    · rfl

theorem Within.ends (first : Within index server middle) (ends : Ends env index middle next) :
    Ends env index server next := by
  rcases ends with within | ⟨last, within, same⟩
  · exact .inl (first.trans within)
  · exact .inr ⟨last, first.trans within, same⟩

theorem ends_disconnect (env : Environment) (server : Server) (index : Index) :
    Ends env index server (server.disconnectSessionInternal env index).1 :=
  .inr ⟨server, .refl index server, rfl⟩

-- The end of a WSASend that fails for good.
theorem ends_abandon (env : Environment) (server : Server) (index : Index) :
    Ends env index server
      ((server.modify index (CSession.storeSending false)).disconnectSessionInternal env index).1 :=
  (Within.modify rfl rfl rfl).ends (ends_disconnect ..)

theorem postRecv_ends (env : Environment) (server : Server) (index : Index) :
    Ends env index server (server.postRecv env index) := by
  simp only [postRecv]
  split
  · have armed : Within index server (server.modify index CSession.armRecv) := .modify rfl rfl rfl
    split
    · exact armed.ends (ends_disconnect ..)
    · have posted (segments : List Segment) := armed.trans (.post env _ index .recv segments)
      split
      · exact .inl (posted _)
      · exact (posted _).ends (ends_disconnect ..)
  · exact .inl (.refl index server)

theorem postSend_ends (env : Environment) (server : Server) (index : Index) :
    Ends env index server (server.postSend env index) := by
  simp only [postSend]
  split
  · split
    · exact .inl (.refl index server)
    · have sending : Within index server (server.modify index (CSession.storeSending true)) :=
        .modify rfl rfl rfl
      split
      · exact .inl (sending.trans (.modify rfl rfl rfl))
      · have armed : Within index server
            ((server.modify index (CSession.storeSending true)).modify index CSession.armSend) :=
          sending.trans (.modify rfl rfl rfl)
        split
        · exact .inl (armed.trans (.modify rfl rfl rfl))
        · have posted (segments : List Segment) := armed.trans (.post env _ index .send segments)
          split
          · exact .inl (posted _)
          · exact (posted _).ends (ends_abandon ..)
  · exact .inl (.refl index server)

theorem requestSendMsg_ends {sessionId : SessionId} (data : Option (List UInt8)) (length : Int)
    (found : server.findSession env sessionId = some index) :
    Ends env index server (server.requestSendMsg env sessionId data length) := by
  simp only [requestSendMsg, found]
  split
  · have stored : Within index server (server.modify index (CSession.storeSendQ
        ((server.sessions index).sendQ.enqueue data (intToSize length)).1)) :=
      .modify rfl rfl rfl
    split
    · exact stored.ends (ends_disconnect ..)
    · exact stored.ends (postSend_ends ..)
  · exact .inl (.refl index server)

theorem resumeSend_ends (env : Environment) (server : Server) (index : Index)
    (segments : List Segment) : Ends env index server (server.resumeSend env index segments) := by
  simp only [resumeSend]
  split
  · have cleared : Within index server (server.modify index (CSession.storeSending false)) :=
      .modify rfl rfl rfl
    split
    · exact cleared.ends (postSend_ends ..)
    · exact .inl cleared
  · have posted := Within.post env server index .send segments
    split
    · exact .inl posted
    · exact posted.ends (ends_abandon ..)

theorem processSend_ends (env : Environment) (server : Server) (index : Index)
    (bytesTransferred : Nat) :
    Ends env index server (server.processSend env index bytesTransferred) := by
  simp only [processSend]
  split
  · have consumed : Within index server (server.modify index (CSession.storeSendQ
        ((server.sessions index).sendQ.consume bytesTransferred).1)) :=
      .modify rfl rfl rfl
    split
    · exact consumed.ends (ends_disconnect ..)
    · split
      · exact (consumed.trans (.modify rfl rfl rfl)).ends (resumeSend_ends ..)
      · exact consumed.ends (resumeSend_ends ..)
  · exact .inl (.refl index server)

end Ends

def Keeps (holds : Server → Index → Prop) (server next : Server) : Prop :=
  ∀ index, holds server index → holds next index

theorem Keeps.trans {holds : Server → Index → Prop} {first second third : Server}
    (before : Keeps holds first second) (after : Keeps holds second third) :
    Keeps holds first third :=
  fun index held => after index (before index held)

/-- Knowledge about slots that survives the disconnect of a session of which it is held. -/
structure Handled (env : Environment) (holds : Server → Index → Prop) : Prop where
  alike : ∀ {server next : Server}, Alike server next → Keeps holds server next
  disconnect : ∀ {server : Server} {index : Index}, holds server index →
    Keeps holds server (server.disconnectSessionInternal env index).1
  own : ∀ {server : Server} {index other : Index}, holds server index →
    server.findSession env (server.sessions index).sessionId = some other → holds server other

namespace Handled

variable {env : Environment} {holds : Server → Index → Prop} (handled : Handled env holds)
  {server : Server} {index : Index}

include handled

theorem store {change : CSession → CSession}
    (valid : (change (server.sessions index)).valid = (server.sessions index).valid)
    (socket : (change (server.sessions index)).socket = (server.sessions index).socket)
    (sessionId : (change (server.sessions index)).sessionId = (server.sessions index).sessionId) :
    Keeps holds server (server.modify index change) :=
  handled.alike (.modify index valid socket sessionId)

theorem ends (held : holds server index) {next : Server} (ends : Ends env index server next) :
    Keeps holds server next := by
  rcases ends with within | ⟨middle, within, rfl⟩
  · exact handled.alike within.toAlike
  · have kept : Keeps holds server middle := handled.alike within.toAlike
    exact kept.trans (handled.disconnect (kept index held))

theorem postRecv (held : holds server index) : Keeps holds server (server.postRecv env index) :=
  handled.ends held (postRecv_ends ..)

theorem requestSendMsg {sessionId : SessionId} (data : Option (List UInt8)) (length : Int)
    (held : ∀ other, server.findSession env sessionId = some other → holds server other) :
    Keeps holds server (server.requestSendMsg env sessionId data length) := by
  cases found : server.findSession env sessionId with
  | none =>
    simp only [Server.requestSendMsg, found]
    exact fun _ => id
  | some index => exact handled.ends (held index found) (requestSendMsg_ends data length found)

theorem requestDisconnectSession {sessionId : SessionId}
    (held : ∀ other, server.findSession env sessionId = some other → holds server other) :
    Keeps holds server (server.requestDisconnectSession env sessionId).1 := by
  simp only [Server.requestDisconnectSession]
  split
  · next index found => exact handled.disconnect (held index found)
  · exact fun _ => id

theorem deliverPacket (bytes : List UInt8) (held : holds server index) :
    Keeps holds server (server.deliverPacket env index bytes) := by
  simp only [Server.deliverPacket]
  split
  · exact handled.requestSendMsg _ _ fun other found => handled.own held found
  · exact handled.alike (.pushNetworkEvent _)
  · exact fun _ => id

theorem parseLoop (turns : Nat) (held : holds server index) :
    Keeps holds server (parseLoop env turns server index) := by
  induction turns generalizing server with
  | zero => exact fun _ => id
  | succ turns ih =>
    simp only [Server.parseLoop]
    split
    · exact fun _ => id
    · exact handled.disconnect held
    · next rest bytes _ =>
      have dequeued : Keeps holds server (server.modify index (CSession.storeRecvQ rest)) :=
        handled.store rfl rfl rfl
      have delivered := dequeued.trans (handled.deliverPacket bytes (dequeued index held))
      exact delivered.trans (ih (delivered index held))

theorem parsePackets (held : holds server index) :
    Keeps holds server (server.parsePackets env index) :=
  handled.parseLoop _ held

theorem processRecv (bytesTransferred : Nat) (held : holds server index) :
    Keeps holds server (server.processRecv env index bytesTransferred) := by
  simp only [Server.processRecv]
  split
  · exact handled.disconnect held
  · have moved : Keeps holds server (server.modify index (CSession.storeRecvQ
        ((server.sessions index).recvQ.moveWritePtr bytesTransferred).1)) :=
      handled.store rfl rfl rfl
    split
    · exact moved.trans (handled.disconnect (moved index held))
    · have parsed := moved.trans (handled.parsePackets (moved index held))
      exact parsed.trans (handled.postRecv (parsed index held))

theorem workerThread (completion : Completion) (held : holds server completion.request.index) :
    Keeps holds server (server.workerThread env completion) := by
  simp only [Server.workerThread]
  split
  · exact handled.disconnect held
  · exact fun _ => id
  · exact handled.processRecv _ held
  · exact handled.ends held (processSend_ends ..)

end Handled

theorem close_sessions (server : Server) (index other : Index) :
    (server.close index).sessions other =
      if other = index then { server.sessions index with socket := none }
      else server.sessions other := by
  cases opened : (server.sessions index).socket with
  | none =>
    simp only [close, opened]
    split
    · next same => rw [same, ← opened]
    · rfl
  | some socket =>
    simp only [close, opened]
    exact modify_sessions _ index other _

theorem close_fields (server : Server) (index : Index) :
    (server.close index).availableIndices = server.availableIndices ∧
      (server.close index).pendingDisconStack = server.pendingDisconStack ∧
      (server.close index).accepted = server.accepted ∧
      (server.close index).closed =
        server.closed ++ (server.sessions index).socket.toList := by
  simp only [close]
  cases (server.sessions index).socket with
  | none => exact ⟨rfl, rfl, rfl, (List.append_nil _).symm⟩
  | some socket => exact ⟨rfl, rfl, rfl, rfl⟩

structure Disconnected (server next : Server) (index : Index) : Prop where
  valid : (next.sessions index).valid = false
  socket : (next.sessions index).socket = none
  sessionId : (next.sessions index).sessionId = (server.sessions index).sessionId
  others : ∀ other, other ≠ index → next.sessions other = server.sessions other
  availableIndices : next.availableIndices = server.availableIndices
  pendingDisconStack : next.pendingDisconStack =
    (server.sessions index).sessionId :: server.pendingDisconStack
  accepted : next.accepted = server.accepted
  closed : next.closed = server.closed ++ (server.sessions index).socket.toList

theorem disconnect_cases (env : Environment) (server : Server) (index : Index) :
    ((server.sessions index).valid = false ∧
        (server.disconnectSessionInternal env index).1 = server) ∨
      (server.sessions index).valid = true ∧
        Disconnected server (server.disconnectSessionInternal env index).1 index := by
  simp only [disconnectSessionInternal]
  split
  · next valid =>
    refine .inr ⟨valid, ?_⟩
    have announced {server : Server} (sessionId : SessionId) :
        (server.announceDisconnect env sessionId).sessions = server.sessions ∧
          (server.announceDisconnect env sessionId).availableIndices = server.availableIndices ∧
          (server.announceDisconnect env sessionId).pendingDisconStack =
            server.pendingDisconStack ∧
          (server.announceDisconnect env sessionId).accepted = server.accepted ∧
          (server.announceDisconnect env sessionId).closed = server.closed := by
      simp only [announceDisconnect]
      split <;> exact ⟨rfl, rfl, rfl, rfl, rfl⟩
    obtain ⟨available, pending, accepted, closed⟩ :=
      (server.modify index (CSession.storeValid false)).close_fields index
    rw [modify_same] at closed
    refine ⟨?_, ?_, ?_, fun other apart => ?_, ?_, ?_, ?_, ?_⟩ <;>
      simp only [announced]
    · simp [pushPending, CSession.storeSending, close_sessions, CSession.storeValid]
    · simp [pushPending, CSession.storeSending, close_sessions]
    · simp [pushPending, CSession.storeSending, close_sessions, CSession.storeValid]
    · simp [pushPending, modify_sessions, close_sessions, apart]
    · exact available
    · simp only [pushPending, modify_same, close_sessions, if_true, CSession.storeSending,
        CSession.storeValid]
      exact congrArg _ pending
    · exact accepted
    · exact closed
  · next invalid => exact .inl ⟨by simpa using invalid, rfl⟩

theorem findSession_eq {env : Environment} {server : Server} {sessionId : SessionId}
    {index : Index} (found : server.findSession env sessionId = some index) :
    index = extractIndex sessionId ∧ index.toNat < env.maxClients := by
  simp only [findSession] at found
  split at found
  · cases found
  · next inside =>
    split at found
    · cases found
      exact ⟨rfl, Nat.lt_of_not_le inside⟩
    · cases found

theorem releaseOne_pending (env : Environment) (server : Server) (sessionId : SessionId) :
    (server.releaseOne env sessionId).pendingDisconStack = server.pendingDisconStack := by
  simp only [releaseOne]
  split
  · exact (server.close_fields _).2.1
  · rfl

theorem releaseAll_invariant {env : Environment} {property : Server → Prop}
    (one : ∀ server sessionId rest, property server →
      server.pendingDisconStack = sessionId :: rest →
      property ({ server with pendingDisconStack := rest }.releaseOne env sessionId))
    (stack : List SessionId) (server : Server) (same : server.pendingDisconStack = stack)
    (holds : property server) : property (releaseAll env stack server) := by
  induction stack generalizing server with
  | nil => exact holds
  | cons sessionId rest ih =>
    exact ih _ (releaseOne_pending env _ sessionId) (one server sessionId rest holds same)

/-- ProcessAccept up to BindIOCP, for the index at the front of `_availableIndices`. -/
def takeSlot (server : Server) (clientSocket : Socket) (index : Index) (rest : List Index) :
    Server :=
  { server with
      availableIndices := rest
      sessionIdCounter := server.sessionIdCounter + 1 }.modify index
    (CSession.initializeSession (some clientSocket)
      (makeSessionId index (server.sessionIdCounter &&& sessionUniqueMask)) clientSocket)

-- ProcessAccept after BindIOCP has failed.
def returnSlot (server : Server) (clientSocket : Socket) (index : Index) : Server :=
  { server.close index with
    availableIndices := (server.close index).availableIndices ++ [index] }.closesocket clientSocket

theorem processAccept_invariant {env : Environment} {holds : Server → Index → Prop}
    {property : Server → Prop} (handled : Handled env holds) {server : Server}
    {clientSocket : Socket} {bound : Bool}
    (full : server.availableIndices = [] → property (server.closesocket clientSocket))
    (welcomed : ∀ index rest, server.availableIndices = index :: rest → bound = true →
      holds (server.takeSlot clientSocket index rest) index ∧
        ∀ next, holds next index → property next)
    (returned : ∀ index rest, server.availableIndices = index :: rest → bound = false →
      property ((server.takeSlot clientSocket index rest).returnSlot clientSocket index)) :
    property (server.processAccept env clientSocket bound) := by
  cases available : server.availableIndices with
  | nil =>
    simp only [processAccept, available]
    exact full available
  | cons index rest =>
    simp only [processAccept, available]
    cases bound with
    | true =>
      obtain ⟨held, enough⟩ := welcomed index rest available rfl
      have announced := handled.alike (Alike.announceConnect env
        (makeSessionId index (server.sessionIdCounter &&& sessionUniqueMask))) index held
      exact enough _ (handled.postRecv announced index announced)
    | false => exact returned index rest available rfl

def Touches (env : Environment) (known : Server → Index → Prop) (server : Server) : Action → Prop
  | .worker position => ∀ completion ∈ server.completions[position]?,
      known server completion.request.index
  | .requestSendMsg sessionId _ _ | .requestDisconnectSession sessionId =>
      match server.findSession env sessionId with
      | some index => known server index
      | none => True
  | _ => True

instance (env : Environment) (known : Server → Index → Prop)
    [∀ server index, Decidable (known server index)] (server : Server) (action : Action) :
    Decidable (server.Touches env known action) :=
  match action with
  | .worker position => inferInstanceAs (Decidable (∀ completion ∈ server.completions[position]?,
      known server completion.request.index))
  | .requestSendMsg sessionId _ _ | .requestDisconnectSession sessionId =>
      show Decidable (match server.findSession env sessionId with
        | some index => known server index
        | none => True) from
      match server.findSession env sessionId with
      | some index => inferInstanceAs (Decidable (known server index))
      | none => inferInstanceAs (Decidable True)
  | .accept _ | .acceptFailed | .receive _ _ | .transmit _ _ | .fail _ =>
      inferInstanceAs (Decidable True)

theorem Handled.step {env : Environment} {property : Server → Prop} {known : Server → Index → Prop}
    (handled : Handled env fun server index => property server ∧ known server index)
    (alike : ∀ {server next : Server}, property server → Alike server next → property next)
    (released : ∀ {server : Server}, property server → property (server.releaseSession env))
    {server next : Server} {action : Action}
    (accepted : ∀ bound, action = .accept bound → property (server.acceptThread env bound))
    (touches : server.Touches env known action) (holds : property server)
    (taken : server.step env action = some next) : property next := by
  cases action with
  | accept bound =>
    cases taken
    exact accepted bound rfl
  | acceptFailed =>
    cases taken
    exact released holds
  | receive position bytes =>
    simp only [Server.step, Option.bind_eq_bind, Option.bind_eq_some_iff] at taken
    obtain ⟨request, _, _, _, taken⟩ := taken
    cases taken
    exact alike (alike holds (.modify request.index rfl rfl rfl)) (.complete position _)
  | transmit position count =>
    simp only [Server.step, Option.bind_eq_bind, Option.bind_eq_some_iff] at taken
    obtain ⟨request, _, _, _, taken⟩ := taken
    cases taken
    exact alike holds (.complete position _)
  | fail position =>
    simp only [Server.step, Option.bind_eq_bind, Option.bind_eq_some_iff] at taken
    obtain ⟨request, _, taken⟩ := taken
    cases taken
    exact alike holds (.complete position _)
  | worker position =>
    simp only [Server.step, Option.bind_eq_bind, Option.bind_eq_some_iff] at taken
    obtain ⟨completion, found, taken⟩ := taken
    cases taken
    have dequeued := handled.alike (Alike.dequeueCompletion position) completion.request.index
      ⟨holds, touches completion found⟩
    exact (handled.workerThread completion dequeued _ dequeued).1
  | requestSendMsg sessionId data length =>
    cases taken
    cases found : server.findSession env sessionId with
    | none => simpa only [Server.requestSendMsg, found] using holds
    | some index =>
      simp only [Touches, found] at touches
      have held : property server ∧ known server index := ⟨holds, touches⟩
      have same {other : Index} (at_other : server.findSession env sessionId = some other) :
          property server ∧ known server other := by
        rw [found] at at_other
        cases at_other
        exact held
      exact (handled.requestSendMsg data length (fun _ => same) index held).1
  | requestDisconnectSession sessionId =>
    cases taken
    cases found : server.findSession env sessionId with
    | none => simpa only [Server.requestDisconnectSession, found] using holds
    | some index =>
      simp only [Touches, found] at touches
      have held : property server ∧ known server index := ⟨holds, touches⟩
      have same {other : Index} (at_other : server.findSession env sessionId = some other) :
          property server ∧ known server other := by
        rw [found] at at_other
        cases at_other
        exact held
      exact (handled.requestDisconnectSession (fun _ => same) index held).1

end Server

end MiniGames
