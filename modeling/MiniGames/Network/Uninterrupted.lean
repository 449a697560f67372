import MiniGames.Network.Handlers
import MiniGames.Network.ReceiveStream
import MiniGames.Network.SessionRings

set_option autoImplicit false

namespace MiniGames

open Circular Runs

namespace Frame

variable {env : Environment} {bound : Bool} {server middle last : Server} {index : Index}

/-- A thread that alone runs the frames, and those that take their place, leaves the server so. -/
inductive Completes (env : Environment) (bound : Bool) : Server → List Frame → Server → Prop
  | done (server : Server) : Completes env bound server [] server
  | turn {server last : Server} {frame : Frame} {rest : List Frame}
      (later : Completes env bound (frame.turn env server bound).1
        ((frame.turn env server bound).2 ++ rest) last) :
      Completes env bound server (frame :: rest) last

namespace Completes

theorem append {frames more : List Frame} (first : Completes env bound server frames middle)
    (second : Completes env bound middle more last) :
    Completes env bound server (frames ++ more) last := by
  induction first with
  | done server => exact second
  | turn later ih =>
    rw [List.cons_append]
    refine .turn ?_
    rw [← List.append_assoc]
    exact ih second

theorem single {frame : Frame} (later : Completes env bound (frame.turn env server bound).1
    (frame.turn env server bound).2 last) : Completes env bound server [frame] last := by
  refine .turn ?_
  rw [List.append_nil]
  exact later

end Completes

theorem modify_self (server : Server) (index : Index) :
    (server.modify index fun _ => server.sessions index) = server := by
  simp [Server.modify]

theorem disconnect_completes (server : Server) (index : Index) :
    Completes env bound server [startDisconnect index]
      (server.disconnectSessionInternal env index).1 := by
  refine .single ?_
  simp only [startDisconnect, Frame.turn, disconnectTurn, Server.disconnectSessionInternal]
  split
  · refine .single (.single (.single (.single (.single ?_))))
    exact .done _
  · exact .done _

theorem post_accepts (server : Server) (index : Index) (operation : IOOperation)
    (segments : List Segment) : (server.post env index operation segments).2 =
      ((server.sessions index).socket.isSome && env.accepts server.calls) := by
  cases opened : (server.sessions index).socket with
  | none => simp only [Server.post, opened, Option.isSome_none, Bool.false_and]
  | some socket =>
    simp only [Server.post, opened, Option.isSome_some, Bool.true_and]
    split
    · next accepts => exact accepts.symm
    · next refused => exact (Bool.eq_false_of_not_eq_true refused).symm

variable {target : Option SessionId}

theorem send_completes {pc next : SendPc} (turned : sendTurn env server index pc = (middle, next))
    (later : Completes env bound middle (resume index target next) last) :
    Completes env bound server [.send index target pc] last := by
  refine .single ?_
  simp only [Frame.turn, turned]
  exact later

theorem releaseFailed_completes (server : Server) :
    Completes env bound server [.send index target .releaseFailed]
      ((server.modify index (CSession.storeSending false)).disconnectSessionInternal env index).1 :=
  .single (disconnect_completes _ index)

theorem posted_completes (server : Server) (segments : List Segment) :
    Completes env bound ((server.modify index CSession.armSend).post env index .send segments).1
      (resume index target
        (if (server.sessions index).socket.isSome && env.accepts server.calls then .idle
          else .releaseFailed))
      (if ((server.modify index CSession.armSend).post env index .send segments).2 then
        ((server.modify index CSession.armSend).post env index .send segments).1
      else ((((server.modify index CSession.armSend).post env index .send segments).1.modify index
        (CSession.storeSending false)).disconnectSessionInternal env index).1) := by
  have answer : ((server.modify index CSession.armSend).post env index .send segments).2 =
      ((server.sessions index).socket.isSome && env.accepts server.calls) := by
    rw [post_accepts, Server.modify_same]
    rfl
  rw [answer]
  split
  · exact .done _
  · exact releaseFailed_completes _

theorem wsaSend_completes (server : Server) (index : Index) (info : SendInfo) :
    let armed := server.modify index CSession.armSend
    let posted := armed.post env index .send (Server.sendBuffers info)
    Completes env bound server [.send index target (.wsaSend info)]
      (if (Server.sendBuffers info).isEmpty ||
          Server.lengthsZero (Server.sendBuffers info) (env.garbage server.calls) then
        armed.modify index (CSession.storeSending false)
      else if posted.2 then posted.1
      else ((posted.1.modify index (CSession.storeSending false)).disconnectSessionInternal
        env index).1) := by
  intro armed posted
  cases nothing : (Server.sendBuffers info).isEmpty ||
    Server.lengthsZero (Server.sendBuffers info) (env.garbage server.calls) with
  | true =>
    have turned : sendTurn env server index (.wsaSend info) = (armed, .releaseEarly) := by
      simp only [sendTurn, SendPc.turn, nothing, if_true]
      rfl
    exact send_completes turned (.single (.done _))
  | false =>
    have turned : sendTurn env server index (.wsaSend info) = (posted.1,
        if (server.sessions index).socket.isSome && env.accepts server.calls then .idle
        else .releaseFailed) := by
      simp only [sendTurn, SendPc.turn, nothing, Bool.false_eq_true, if_false]
      rfl
    exact send_completes turned (posted_completes server _)

theorem getSendInfo_completes (server : Server) (index : Index) :
    let info := (server.sessions index).sendQ.getSendInfo
    let armed := server.modify index CSession.armSend
    let posted := armed.post env index .send (Server.sendBuffers info)
    Completes env bound server [.send index target .getSendInfo]
      (if info.dataSize = 0 then server.modify index (CSession.storeSending false)
      else if (Server.sendBuffers info).isEmpty ||
          Server.lengthsZero (Server.sendBuffers info) (env.garbage server.calls) then
        armed.modify index (CSession.storeSending false)
      else if posted.2 then posted.1
      else ((posted.1.modify index (CSession.storeSending false)).disconnectSessionInternal
        env index).1) := by
  intro info armed posted
  have turned : sendTurn env server index .getSendInfo =
      (server, if info.dataSize = 0 then .releaseEarly else .wsaSend info) := by
    simp only [sendTurn, SendPc.turn, modify_self]
    rfl
  refine send_completes turned ?_
  split
  · exact .single (.done _)
  · exact wsaSend_completes server index info

theorem postSend_completes (server : Server) (index : Index) :
    Completes env bound server [.send index target .postValid] (server.postSend env index) := by
  have turned : sendTurn env server index .postValid =
      (server, if (server.sessions index).valid then .exchange else .idle) := by
    simp only [sendTurn, SendPc.turn, modify_self]
  refine send_completes turned ?_
  simp only [Server.postSend]
  split
  · have won : sendTurn env server index .exchange = (server.modify index
        (CSession.storeSending true),
        if (server.sessions index).sending then .idle else .getSendInfo) := rfl
    refine send_completes won ?_
    cases sending : (server.sessions index).sending with
    | true =>
      have same : server.modify index (CSession.storeSending true) = server := by
        rw [← sending]
        exact modify_self server index
      rw [same]
      exact .done server
    | false => exact getSendInfo_completes (server.modify index (CSession.storeSending true)) index
  · exact .done server

theorem checkValid_completes (server : Server) (index : Index) (payload : Payload) :
    let enqueued := (server.sessions index).sendQ.enqueue payload.data payload.size
    let stored := server.modify index (CSession.storeSendQ enqueued.1)
    Completes env bound server [.send index target (.checkValid payload)]
      (if (server.sessions index).valid then
        if enqueued.2.returned ≠ payload.size then (stored.disconnectSessionInternal env index).1
        else stored.postSend env index
      else server) := by
  intro enqueued stored
  have turned : sendTurn env server index (.checkValid payload) =
      (server, if (server.sessions index).valid then .enqueue payload else .idle) := by
    simp only [sendTurn, SendPc.turn, modify_self]
  refine send_completes turned ?_
  split
  · have taken : sendTurn env server index (.enqueue payload) = (stored,
        if enqueued.2.returned ≠ payload.size then .disconnect else .postValid) := rfl
    refine send_completes taken ?_
    split
    · exact disconnect_completes stored index
    · exact postSend_completes stored index
  · exact .done server

theorem requestSendMsg_completes (server : Server) (sessionId : SessionId) (payload : Payload) :
    Completes env bound server [.findSend sessionId payload]
      (server.requestSendMsg env sessionId payload.data payload.length) := by
  refine .single ?_
  cases found : server.findSession env sessionId with
  | none =>
    simp only [Frame.turn, Server.requestSendMsg, found]
    exact .done server
  | some index =>
    simp only [Frame.turn, Server.requestSendMsg, found]
    exact checkValid_completes server index payload

theorem requestDisconnectSession_completes (server : Server) (sessionId : SessionId) :
    Completes env bound server [.findDisconnect sessionId]
      (server.requestDisconnectSession env sessionId).1 := by
  refine .single ?_
  cases found : server.findSession env sessionId with
  | none =>
    simp only [Frame.turn, Server.requestDisconnectSession, found]
    exact .done server
  | some index =>
    simp only [Frame.turn, Server.requestDisconnectSession, found]
    exact disconnect_completes server index

theorem releaseSent_completes (server : Server) (index : Index) :
    Completes env bound server [.send index target .releaseSent]
      (server.resumeSend env index []) := by
  have turned : sendTurn env server index .releaseSent =
      (server.modify index (CSession.storeSending false), .recheck) := rfl
  refine send_completes turned ?_
  generalize cleared : server.modify index (CSession.storeSending false) = next
  have looked : sendTurn env next index .recheck = (next,
      if (next.sessions index).sendQ.getDataSize > 0 then .postValid else .idle) := by
    simp only [sendTurn, SendPc.turn, modify_self]
  refine send_completes looked ?_
  simp only [Server.resumeSend, List.isEmpty_nil, if_true, cleared]
  split
  · exact postSend_completes next index
  · exact .done next

theorem wsaSendRest_completes (server : Server) (index : Index) (info : SendInfo) :
    Completes env bound server [.send index target (.wsaSendRest info)]
      ((server.modify index CSession.armSend).resumeSend env index (Server.sendBuffers info)) := by
  cases nothing : (Server.sendBuffers info).isEmpty with
  | true =>
    have turned : sendTurn env server index (.wsaSendRest info) =
        (server.modify index CSession.armSend, .releaseSent) := by
      simp only [sendTurn, SendPc.turn, nothing, if_true]
      rfl
    rw [List.isEmpty_iff.mp nothing]
    exact send_completes turned (releaseSent_completes _ index)
  | false =>
    have turned : sendTurn env server index (.wsaSendRest info) =
        (((server.modify index CSession.armSend).post env index .send
          (Server.sendBuffers info)).1,
        if (server.sessions index).socket.isSome && env.accepts server.calls then .idle
        else .releaseFailed) := by
      simp only [sendTurn, SendPc.turn, nothing, Bool.false_eq_true, if_false]
      rfl
    simp only [Server.resumeSend, nothing, Bool.false_eq_true, if_false]
    exact send_completes turned (posted_completes server _)

theorem processSend_completes (server : Server) (index : Index) (bytesTransferred : Nat) :
    Completes env bound server [.send index target (.sentValid bytesTransferred)]
      (server.processSend env index bytesTransferred) := by
  have turned : sendTurn env server index (.sentValid bytesTransferred) = (server,
      if (server.sessions index).valid then .consume bytesTransferred else .idle) := by
    simp only [sendTurn, SendPc.turn, modify_self]
  refine send_completes turned ?_
  simp only [Server.processSend]
  split
  · have taken : sendTurn env server index (.consume bytesTransferred) =
        (server.modify index (CSession.storeSendQ
          ((server.sessions index).sendQ.consume bytesTransferred).1),
        if ((server.sessions index).sendQ.consume bytesTransferred).2.returned ≠ bytesTransferred
        then .disconnect else .getRest) := rfl
    refine send_completes taken ?_
    split
    · exact disconnect_completes _ index
    · generalize server.modify index (CSession.storeSendQ
        ((server.sessions index).sendQ.consume bytesTransferred).1) = next
      have rest : sendTurn env next index .getRest = (next,
          if (next.sessions index).sendQ.getSendInfo.dataSize > 0 then
            .wsaSendRest (next.sessions index).sendQ.getSendInfo
          else .releaseSent) := by
        simp only [sendTurn, SendPc.turn, modify_self]
      refine send_completes rest ?_
      split
      · exact wsaSendRest_completes next index _
      · exact releaseSent_completes next index
  · exact .done server

theorem postRecv_completes (server : Server) (index : Index) (incarnation : Nat) :
    Completes env bound server [.postRecv index incarnation] (server.postRecv env index) := by
  refine .single ?_
  simp only [Frame.turn, Server.postRecv]
  split
  · refine .single ?_
    simp only [Frame.turn, wsaRecvTurn]
    split
    · exact disconnect_completes _ index
    · split
      · exact .done _
      · exact disconnect_completes _ index
  · exact .done server

theorem deliver_completes (server : Server) (index : Index) (incarnation : Nat)
    (bytes : List UInt8) : Completes env bound server [.deliver index incarnation bytes]
      (server.deliverPacket env index bytes) := by
  refine .single ?_
  cases mode : env.architectureType with
  | echoTest =>
    simp only [Frame.turn, deliverTurn, Server.deliverPacket, mode]
    exact requestSendMsg_completes server _ (.ofBytes bytes)
  | _ =>
    simp only [Frame.turn, deliverTurn, Server.deliverPacket, mode]
    exact .done _

def Receives (server next : Server) : Prop :=
  ∀ index, (next.sessions index).recvQ = (server.sessions index).recvQ

theorem Receives.trans {server middle next : Server} (first : Receives server middle)
    (second : Receives middle next) : Receives server next :=
  fun index => (second index).trans (first index)

theorem Receives.modify (server : Server) (index : Index) (change : CSession → CSession)
    (kept : ∀ session, (change session).recvQ = session.recvQ) :
    Receives server (server.modify index change) := by
  intro other
  rw [Server.modify_sessions]
  split
  · next same => rw [kept, same]
  · rfl

theorem Receives.post (operation : IOOperation) (segments : List Segment) :
    Receives server (server.post env index operation segments).1 := by
  intro other
  rw [Server.post_sessions]

theorem disconnect_receives (server : Server) (index : Index) :
    Receives server (server.disconnectSessionInternal env index).1 := by
  have announced (server : Server) (sessionId : SessionId) :
      Receives server (server.announceDisconnect env sessionId) := by
    simp only [Server.announceDisconnect]
    split <;> exact fun _ => rfl
  simp only [Server.disconnectSessionInternal]
  split
  · have invalid : Receives server (server.modify index (CSession.storeValid false)) :=
      .modify server index _ fun _ => rfl
    have closed := invalid.trans fun other => (Server.close_queues _ index other).2
    have cleared := closed.trans (.modify _ index (CSession.storeSending false) fun _ => rfl)
    exact cleared.trans (announced _ _)
  · exact fun _ => rfl

-- The end of a WSASend, whether it went ahead or not.
theorem posted_receives (server : Server) (index : Index) (segments : List Segment) :
    Receives server (if (server.post env index .send segments).2 then
        (server.post env index .send segments).1
      else (((server.post env index .send segments).1.modify index
        (CSession.storeSending false)).disconnectSessionInternal env index).1) := by
  have posted : Receives server (server.post env index .send segments).1 := .post .send segments
  split
  · exact posted
  · exact (posted.trans (.modify _ index (CSession.storeSending false) fun _ => rfl)).trans
      (disconnect_receives _ index)

theorem postSend_receives (server : Server) (index : Index) :
    Receives server (server.postSend env index) := by
  simp only [Server.postSend]
  split
  · split
    · exact fun _ => rfl
    · have sending : Receives server (server.modify index (CSession.storeSending true)) :=
        .modify server index _ fun _ => rfl
      split
      · exact sending.trans (.modify _ index _ fun _ => rfl)
      · have armed := sending.trans (.modify _ index CSession.armSend fun _ => rfl)
        split
        · exact armed.trans (.modify _ index _ fun _ => rfl)
        · exact armed.trans (posted_receives _ index _)
  · exact fun _ => rfl

theorem deliver_receives (env : Environment) (server : Server) (index : Index)
    (bytes : List UInt8) : Receives server (server.deliverPacket env index bytes) := by
  simp only [Server.deliverPacket]
  split
  · simp only [Server.echoTestSend, Server.requestSendMsg]
    split
    · next slot _ =>
      split
      · have stored (ring : CRingBufferT) :
            Receives server (server.modify slot (CSession.storeSendQ ring)) :=
          .modify server slot _ fun _ => rfl
        split
        · exact (stored _).trans (disconnect_receives _ slot)
        · exact (stored _).trans (postSend_receives _ slot)
      · exact fun _ => rfl
    · exact fun _ => rfl
  · exact fun _ => rfl
  · exact fun _ => rfl

theorem parseLoop_completes (turns : Nat) (server : Server) (index : Index) (incarnation : Nat)
    (sound : (server.sessions index).recvQ.Sound)
    (enough : (server.sessions index).recvQ.getDataSize < turns) :
    Completes env bound server [.parse index incarnation]
      (server.parseLoop env turns index) := by
  induction turns generalizing server with
  | zero => exact absurd enough (Nat.not_lt_zero _)
  | succ turns ih =>
    refine .single ?_
    have turned := @Server.parseTurn_classify env _ sound
    simp only [Frame.turn, parseTurn, Server.parseLoop]
    cases verdict : env.framer.classify (server.sessions index).recvQ.contents with
    | wait =>
      simp only [turned, verdict]
      exact .done server
    | reject =>
      simp only [turned, verdict]
      exact disconnect_completes server index
    | frame length =>
      simp only [turned, verdict]
      obtain ⟨positive, fits⟩ := env.framer.fits verdict
      rw [CRingBufferT.contents_length] at fits
      have allocated : (server.sessions index).recvQ.buffer.isSome := by
        by_contra missing
        have empty := CRingBufferT.contents_length (server.sessions index).recvQ
        rw [sound.unallocated_contents (by simpa using missing), List.length_nil] at empty
        omega
      obtain ⟨kept, left, _⟩ := sound.drained_spec allocated fits
      refine (deliver_completes _ index incarnation _).append ?_
      have delivered := deliver_receives env (server.modify index (CSession.storeRecvQ
        ((server.sessions index).recvQ.drained length)))
        index ((server.sessions index).recvQ.contents.take length) index
      rw [Server.modify_same] at delivered
      apply ih
      · rw [delivered]
        exact kept
      · rw [delivered]
        simp only [CSession.storeRecvQ, left]
        omega

theorem parsePackets_completes (server : Server) (index : Index) (incarnation : Nat)
    (sound : (server.sessions index).recvQ.Sound) :
    Completes env bound server [.parse index incarnation] (server.parsePackets env index) :=
  parseLoop_completes _ server index incarnation sound (Nat.lt_succ_self _)

theorem processRecv_completes (server : Server) (index : Index)
    (incarnation bytesTransferred : Nat) (sound : (server.sessions index).recvQ.Sound) :
    Completes env bound server [.moveWritePtr index incarnation bytesTransferred]
      (server.processRecv env index bytesTransferred) := by
  refine .single ?_
  simp only [Frame.turn, moveWritePtrTurn, Server.processRecv]
  split
  · exact disconnect_completes server index
  · split
    · exact disconnect_completes _ index
    · refine (parsePackets_completes _ index incarnation ?_).append (postRecv_completes _ index _)
      rw [Server.modify_same]
      exact (CRingBufferT.moveWritePtr_kept _ bytesTransferred).sound sound

theorem workerThread_completes (server : Server) (completion : Completion)
    (sound : (server.sessions completion.request.index).recvQ.Sound) :
    Completes env bound server [.dispatch completion] (server.workerThread env completion) := by
  refine .single ?_
  simp only [Frame.turn, Server.workerThread, Server.dispatch]
  split
  · exact disconnect_completes server completion.request.index
  · cases valid : (server.sessions completion.request.index).valid with
    | false => exact .done server
    | true =>
      refine .single ?_
      simp only [Frame.turn, checkIdTurn, Bool.true_eq_false, if_false]
      split
      · exact .done server
      · cases ((server.sessions completion.request.index).overlapped
          completion.request.operation).operation with
        | recv => exact processRecv_completes server _ _ _ sound
        | send => exact processSend_completes server _ _
        | accept => exact .done server

theorem releaseSession_completes (server : Server) :
    Completes env bound server [.releaseSession] (server.releaseSession env) := by
  have released (stack : List SessionId) (server : Server)
      (pending : server.pendingDisconStack = stack) :
      Completes env bound server [.releaseSession] (Server.releaseAll env stack server) := by
    induction stack generalizing server with
    | nil =>
      refine .single ?_
      simp only [Frame.turn, pending]
      exact .done server
    | cons sessionId rest ih =>
      refine .single ?_
      simp only [Frame.turn, pending]
      exact .turn (ih _ (Server.releaseOne_pending env _ sessionId))
  exact released _ server rfl

theorem modify_modify (server : Server) (index : Index) (first second : CSession → CSession) :
    (server.modify index first).modify index second =
      server.modify index fun session => second (first session) := by
  simp [Server.modify]

theorem initializeSession_completes {clientSocket : Socket} {sessionId : SessionId}
    (later : Completes env bound (server.modify index
        (CSession.initializeSession (some clientSocket) sessionId clientSocket))
      [.bindIOCP index clientSocket sessionId] last) :
    Completes env bound server [.initializeSession .socket index clientSocket sessionId] last := by
  refine .single (.single (.single (.single (.single (.single (.single ?_))))))
  simp only [Frame.turn, modify_modify]
  exact later

theorem processAccept_completes (server : Server) (clientSocket : Socket) :
    Completes env bound server [.processAccept clientSocket]
      (server.processAccept env clientSocket bound) := by
  refine .single ?_
  cases available : server.availableIndices with
  | nil =>
    simp only [Frame.turn, processAcceptTurn, Server.processAccept, available]
    exact .done _
  | cons index rest =>
    simp only [Frame.turn, processAcceptTurn, Server.processAccept, available]
    refine initializeSession_completes (.single ?_)
    cases bound with
    | true => exact .single (postRecv_completes _ index clientSocket)
    | false => exact .done _

theorem acceptThread_completes (server : Server) :
    Completes env bound { server with accepted := server.accepted + 1 }
      [.releaseSession, .processAccept (server.accepted + 1)] (server.acceptThread env bound) :=
  (releaseSession_completes _).append (processAccept_completes _ _)

end Frame

namespace Server

/-- RequestSendMsg is called with an `int` and with memory that has that many bytes. -/
def Readable (_ : Server) : Action → Prop
  | .requestSendMsg _ data length => (-2 ^ 31 ≤ length ∧ length < 2 ^ 31) ∧
      ∀ bytes ∈ data, length ≤ bytes.length
  | _ => True

instance (server : Server) (action : Action) : Decidable (server.Readable action) :=
  match action with
  | .requestSendMsg _ data length =>
      inferInstanceAs (Decidable ((-2 ^ 31 ≤ length ∧ length < 2 ^ 31) ∧
        ∀ bytes ∈ data, length ≤ bytes.length))
  | .accept _ | .acceptFailed | .receive _ _ | .transmit _ _ | .fail _ | .worker _
  | .requestDisconnectSession _ => inferInstanceAs (Decidable True)

end Server

namespace Machine

variable {env : Environment} {Thread : Type} [DecidableEq Thread] {machine : Machine Thread}
  {bound : Bool} {last : Server}

-- No thread is inside a handler.
def Resting (machine : Machine Thread) : Prop := ∀ thread, machine.threads thread = []

theorem reachable_completes {start : Machine Thread} (thread : Option Thread)
    (machine : Machine Thread) {server : Server} {frames : List Frame}
    (completes : Frame.Completes env bound server frames last)
    (at_server : machine.server = server) (at_frames : machine.threads thread = frames)
    (others : ∀ other, other ≠ thread → machine.threads other = [])
    (reached : Reachable (step env) Always start machine) :
    ∃ next, Reachable (step env) Always start next ∧ next.server = last ∧ next.Resting := by
  induction completes generalizing machine with
  | done server =>
    refine ⟨machine, reached, at_server, fun other => ?_⟩
    by_cases same : other = thread
    · rw [same, at_frames]
    · exact others other same
  | @turn server last frame rest later ih =>
    subst at_server
    have taken : step env machine (.run thread bound) =
        some (machine.runFrame env thread bound frame rest) := by
      simp only [step, at_frames]
    refine ih _ rfl (Function.update_self ..) (fun other apart => ?_) (.step reached trivial taken)
    exact (Function.update_of_ne apart ..).trans (others other apart)

theorem reachable_begun {start : Machine Thread} (bound : Bool) (action : Turn Thread)
    (thread : Option Thread) (middle : Machine Thread) {frames : List Frame}
    (reached : Reachable (step env) Always start machine) (resting : middle.Resting)
    (taken : step env machine action = middle.begin thread frames)
    (completes : Frame.Completes env bound middle.server frames last) :
    ∃ next, Reachable (step env) Always start next ∧ next.server = last ∧ next.Resting := by
  let begun : Machine Thread :=
    { middle with threads := Function.update middle.threads thread frames }
  have arrived : Reachable (step env) Always start begun := by
    refine .step reached trivial (taken.trans ?_)
    simp [begin, guard, resting thread, begun]
  refine reachable_completes thread begun completes rfl ?_ (fun other apart => ?_) arrived
  · exact Function.update_self ..
  · exact (Function.update_of_ne apart ..).trans (resting other)

theorem resting_step (worker : Thread) {start : Machine Thread} {action : Server.Action}
    {next : Server} (reached : Reachable (step env) Always start machine)
    (resting : machine.Resting) (rings : machine.server.Every Rings)
    (readable : machine.server.Readable action)
    (taken : machine.server.step env action = some next) :
    ∃ later, Reachable (step env) Always start later ∧ later.server = next ∧ later.Resting := by
  cases action with
  | accept bound =>
    cases taken
    let middle : Machine Thread :=
      { machine with server := { machine.server with accepted := machine.server.accepted + 1 } }
    exact reachable_begun bound .accept none middle reached resting rfl
      (Frame.acceptThread_completes machine.server)
  | acceptFailed =>
    cases taken
    exact reachable_begun true .acceptFailed none machine reached resting rfl
      (Frame.releaseSession_completes machine.server)
  | receive position bytes =>
    obtain ⟨request, found, _⟩ := Option.bind_eq_some_iff.mp taken
    let later : Machine Thread :=
      { machine with
        server := next
        history := { machine.history with
          received := Function.update machine.history.received request.socket
            (machine.history.received request.socket ++ bytes) } }
    have moved : step env machine (.receive position bytes) = some later := by
      simp [step, found, taken, later]
    exact ⟨later, .step reached trivial moved, rfl, resting⟩
  | transmit position count =>
    have moved : step env machine (.transmit position count) =
        some { machine with server := next } := by
      simp [step, taken]
    exact ⟨_, .step reached trivial moved, rfl, resting⟩
  | fail position =>
    have moved : step env machine (.fail position) = some { machine with server := next } := by
      simp [step, taken]
    exact ⟨_, .step reached trivial moved, rfl, resting⟩
  | worker position =>
    simp only [Server.step, Option.bind_eq_bind, Option.bind_eq_some_iff] at taken
    obtain ⟨completion, found, taken⟩ := taken
    cases taken
    let middle : Machine Thread :=
      { machine with server := machine.server.dequeueCompletion position }
    have begun : step env machine (.worker worker position) =
        middle.begin (some worker) [.dispatch completion] := by
      simp [step, found, middle]
    exact reachable_begun true _ _ middle reached resting begun
      (Frame.workerThread_completes _ completion (rings completion.request.index).recvQ.sound)
  | requestSendMsg sessionId data length =>
    cases taken
    let payload : Payload := ⟨data, length, readable.1, readable.2⟩
    exact reachable_begun true (.requestSendMsg worker sessionId payload) (some worker)
      machine reached resting rfl (Frame.requestSendMsg_completes _ sessionId payload)
  | requestDisconnectSession sessionId =>
    cases taken
    exact reachable_begun true (.requestDisconnectSession worker sessionId) (some worker)
      machine reached resting rfl (Frame.requestDisconnectSession_completes _ sessionId)

/-- Every server that whole handlers reach is one that the threads reach, none of them then at
work. -/
theorem handlers_are_runs (worker : Thread) {server : Server}
    (reached : Reachable (Server.step env) Server.Readable (.start env) server) :
    ∃ machine : Machine Thread, Reachable (step env) Always (start env) machine ∧
      machine.server = server ∧ machine.Resting := by
  induction reached with
  | start => exact ⟨start env, .start, rfl, fun _ => rfl⟩
  | @step server next action before readable taken ih =>
    obtain ⟨machine, arrived, rfl, resting⟩ := ih
    have cleared (session : CSession) (socket : Option Socket) (sessionId : SessionId)
        (incarnation : Nat) (rings : Rings session) :
        Rings (session.initializeSession socket sessionId incarnation) :=
      ⟨rings.recvQ.clear, rings.sendQ.clear⟩
    have rings : machine.server.Every Rings := Server.Every.reachable Rings.statement cleared
      Rings.constructed (before.weaken fun _ _ _ => trivial)
    exact resting_step worker arrived resting rings readable taken

-- A client is accepted, its packet is parsed, and the answer is sent.
theorem handlers_are_runs_answer :
    ∃ server : Server, server.outstanding.length = 2 ∧ server.eventQueue.length = 2 ∧
      ∃ machine : Machine Nat, Reachable (step Server.oneSlot) Always (start Server.oneSlot)
        machine ∧ machine.server = server ∧ machine.Resting := by
  obtain ⟨server, reached, seen⟩ := Reachable.observe
    (restrict (Server.step Server.oneSlot) Server.Readable) (.start Server.oneSlot)
    [.accept true, .receive 0 [6, 0, 5, 0, 6, 0], .worker 0,
      .requestSendMsg 1 (some [6, 0, 5, 0, 6, 0]) 6]
    (fun server => server.outstanding.length = 2 ∧ server.eventQueue.length = 2) (by decide +kernel)
  obtain ⟨outstanding, events⟩ := of_decide_eq_true seen
  exact ⟨server, outstanding, events, handlers_are_runs 0 reached.unrestrict⟩

end Machine

end MiniGames
