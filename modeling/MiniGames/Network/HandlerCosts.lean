import MiniGames.Network.Handlers
import MiniGames.Network.ReceiveStream
import MiniGames.Network.SessionRings
import MiniGames.Shared.Amortised
import Mathlib.Algebra.BigOperators.Ring.List
import Mathlib.Data.FinEnum
import Mathlib.Data.Fintype.Option

set_option autoImplicit false

namespace MiniGames

open Circular Runs

namespace SendPc

-- How many statements of its thread are still to come at most.
def weight : SendPc → Nat
  | .idle | .disconnect | .releaseEarly => 1
  | .releaseFailed => 9
  | .wsaSend _ => 10
  | .getSendInfo => 11
  | .exchange => 12
  | .postValid => 13
  | .enqueue _ | .recheck => 14
  | .checkValid _ | .releaseSent => 15
  | .wsaSendRest _ => 16
  | .getRest => 17
  | .consume _ => 18
  | .sentValid _ => 19

end SendPc

-- pushPending also pays for the release of the session that it pushes.
def DisconnectPc.weight : DisconnectPc → Nat
  | .pushEvent _ => 1
  | .readSessionId => 2
  | .pushPending => 5
  | .clearSending => 6
  | .close => 7
  | .exchange => 8

def InitializePc.weight : InitializePc → Nat
  | .overlapped => 13
  | .sendQ => 14
  | .recvQ => 15
  | .sending => 16
  | .valid => 17
  | .sessionId => 18
  | .socket => 19

-- The bytes of a receive also pay for the packets that they complete.
def Frame.weight : Frame → Nat
  | .findSend _ _ => 16
  | .findDisconnect _ => 9
  | .send _ _ pc => pc.weight
  | .disconnect _ pc _ => pc.weight
  | .dispatch completion => 22 + 9 * completion.bytesTransferred
  | .checkId completion => 21 + 9 * completion.bytesTransferred
  | .moveWritePtr _ _ bytesTransferred => 20 + 9 * bytesTransferred
  | .parse _ _ => 9
  | .deliver _ _ _ => 17
  | .postRecv _ _ => 10
  | .wsaRecv _ _ => 9
  | .releaseSession | .release _ => 1
  | .processAccept _ => 20
  | .initializeSession pc _ _ _ => pc.weight
  | .bindIOCP _ _ _ => 12
  | .announceConnect _ _ _ => 11

def framesWeight (frames : List Frame) : Nat := (frames.map Frame.weight).sum

namespace Server

-- The bytes in the rings that receive, and those that the queued completions report.
def buffered (server : Server) : Nat := ∑ index, (server.sessions index).recvQ.getDataSize

def reported (server : Server) : Nat := (server.completions.map Completion.bytesTransferred).sum

def weight (server : Server) : Nat :=
  9 * server.buffered + 9 * server.reported + 2 * server.pendingDisconStack.length

variable {server next : Server} {index : Index}

theorem buffered_modify (server : Server) (index : Index) (change : CSession → CSession) :
    (server.modify index change).buffered + (server.sessions index).recvQ.getDataSize =
      server.buffered + (change (server.sessions index)).recvQ.getDataSize :=
  sum_update (fun session : CSession => session.recvQ.getDataSize) server.sessions index _

theorem closesocket_reported (server : Server) (socket : Socket) :
    (server.closesocket socket).reported = server.reported := by
  simp [reported, closesocket, Function.comp_def]

theorem close_reported (server : Server) (index : Index) :
    (server.close index).reported = server.reported := by
  simp only [close]
  split
  · exact closesocket_reported server _
  · rfl

theorem post_reported (env : Environment) (server : Server) (index : Index)
    (operation : IOOperation) (segments : List Segment) :
    (server.post env index operation segments).1.reported = server.reported := by
  rw [reported, post_completions, reported]

theorem modify_weight (server : Server) (index : Index) (change : CSession → CSession)
    (kept : ∀ session, (change session).recvQ.getDataSize = session.recvQ.getDataSize) :
    (server.modify index change).weight = server.weight := by
  have buffered := server.buffered_modify index change
  rw [kept] at buffered
  simp only [weight, Nat.add_right_cancel buffered]
  rfl

theorem complete_weight (server : Server) (position : Nat) (completion : Completion) :
    (server.complete position completion).weight =
      server.weight + 9 * completion.bytesTransferred := by
  simp only [weight, reported, buffered, complete, List.map_append, List.sum_append,
    List.map_cons, List.map_nil, List.sum_cons, List.sum_nil]
  omega

theorem dequeueCompletion_weight {position : Nat} {completion : Completion}
    (found : server.completions[position]? = some completion) :
    (server.dequeueCompletion position).weight + 9 * completion.bytesTransferred =
      server.weight := by
  obtain ⟨inside, same⟩ := List.getElem?_eq_some_iff.mp found
  have sum := ((List.getElem_cons_eraseIdx_perm inside).map Completion.bytesTransferred).sum_eq
  rw [List.map_cons, List.sum_cons, same] at sum
  simp only [weight, reported, buffered, dequeueCompletion]
  omega

theorem post_pending (env : Environment) (server : Server) (index : Index)
    (operation : IOOperation) (segments : List Segment) :
    (server.post env index operation segments).1.pendingDisconStack =
      server.pendingDisconStack := by
  simp only [post]
  split
  · split <;> rfl
  · rfl

end Server

theorem CRingBufferT.Sound.clear_dataSize {ring : CRingBufferT} (sound : ring.Sound) :
    ring.clear.getDataSize = 0 := by
  rw [← contents_length, sound.clear_spec.2]
  rfl

theorem CRingBufferT.Sound.moveWritePtr_dataSize {ring : CRingBufferT} (sound : ring.Sound)
    (size : Nat) : (ring.moveWritePtr size).1.getDataSize ≤ ring.getDataSize + size := by
  by_cases refused : size = 0 ∨ ring.getFreeSize < size
  · rw [moveWritePtr_refused size refused]
    exact Nat.le_add_right _ _
  · cases buffer : ring.buffer with
    | none => simp [moveWritePtr, buffer]
    | some memory =>
      rw [sound.moveWritePtr_accepted (by simp [buffer]) (by omega) (by omega)]
      exact (sound.advanceWrite ring.memory (by omega) fun _ _ => rfl).2.1.le

namespace Frame

variable {env : Environment} {server : Server} {bound : Bool}

theorem turn_reported (env : Environment) (server : Server) (frame : Frame) (bound : Bool) :
    (frame.turn env server bound).1.reported = server.reported := by
  have closed {server : Server} (index : Index) := server.close_reported index
  have posted {server : Server} (index : Index) (operation : IOOperation)
      (segments : List Segment) := server.post_reported env index operation segments
  cases frame with
  | send index target pc =>
    simp only [turn, sendTurn]
    split
    · exact posted index .send _
    · rfl
  | disconnect index pc cleared =>
    cases pc with
    | exchange =>
      simp only [turn, disconnectTurn]
      split <;> rfl
    | close => exact closed index
    | pushEvent sessionId =>
      simp only [turn, disconnectTurn, Server.announceDisconnect]
      split <;> rfl
    | _ => rfl
  | moveWritePtr index incarnation size =>
    simp only [turn, moveWritePtrTurn]
    split <;> rfl
  | parse index incarnation =>
    simp only [turn, parseTurn]
    split <;> rfl
  | deliver index incarnation bytes =>
    simp only [turn, deliverTurn]
    split <;> rfl
  | wsaRecv index incarnation =>
    simp only [turn, wsaRecvTurn]
    split
    · rfl
    · exact posted index .recv _
  | releaseSession =>
    simp only [turn]
    split <;> rfl
  | release sessionId =>
    simp only [turn, Server.releaseOne]
    split
    · exact closed _
    · rfl
  | processAccept clientSocket =>
    simp only [turn, processAcceptTurn]
    split
    · exact server.closesocket_reported clientSocket
    · rfl
  | bindIOCP index clientSocket sessionId =>
    simp only [turn, bindTurn]
    split
    · rfl
    · exact (Server.closesocket_reported _ clientSocket).trans (closed index)
  | announceConnect index clientSocket sessionId =>
    simp only [turn, Server.announceConnect]
    split <;> rfl
  | _ => rfl

theorem turn_pending (env : Environment) (server : Server) (frame : Frame) (bound : Bool) :
    (frame.turn env server bound).1.pendingDisconStack.length +
        (if frame = .releaseSession ∧ server.pendingDisconStack ≠ [] then 1 else 0) =
      server.pendingDisconStack.length +
        match frame with
        | .disconnect _ .pushPending _ => 1
        | _ => 0 := by
  have closed {server : Server} (index : Index) := (server.close_fields index).2.1
  have posted {server : Server} (index : Index) (operation : IOOperation)
      (segments : List Segment) := server.post_pending env index operation segments
  cases frame with
  | send index target pc =>
    simp only [turn, sendTurn]
    split <;> simp [posted, Server.modify]
  | disconnect index pc cleared =>
    cases pc with
    | exchange =>
      simp only [turn, disconnectTurn]
      split <;> simp [Server.modify]
    | pushEvent sessionId =>
      simp only [turn, disconnectTurn, Server.announceDisconnect]
      split <;> simp [Server.pushNetworkEvent]
    | _ => simp [turn, disconnectTurn, closed, Server.modify, Server.pushPending]
  | moveWritePtr index incarnation size =>
    simp only [turn, moveWritePtrTurn]
    split <;> simp [Server.modify]
  | parse index incarnation =>
    simp only [turn, parseTurn]
    split <;> simp [Server.modify]
  | deliver index incarnation bytes =>
    simp only [turn, deliverTurn]
    split <;> simp [Server.pushNetworkEvent]
  | wsaRecv index incarnation =>
    simp only [turn, wsaRecvTurn]
    split <;> simp [posted, Server.modify]
  | releaseSession =>
    simp only [turn]
    split
    · next empty => simp [empty]
    · next sessionId rest pending => simp [pending]
  | release sessionId =>
    simp only [turn, Server.releaseOne]
    split <;> simp [closed]
  | processAccept clientSocket =>
    simp only [turn, processAcceptTurn]
    split <;> simp [Server.closesocket]
  | bindIOCP index clientSocket sessionId =>
    simp only [turn, bindTurn]
    split <;> simp [closed, Server.closesocket]
  | announceConnect index clientSocket sessionId =>
    simp only [turn, Server.announceConnect]
    split <;> simp [Server.pushNetworkEvent]
  | _ => simp [turn, Server.modify]

theorem turn_buffered (env : Environment) (server : Server) (frame : Frame) (bound : Bool)
    (parses : ∀ index, frame.parses index = false)
    (initializes : ∀ index, frame.initializes index = false) :
    (frame.turn env server bound).1.buffered = server.buffered := by
  refine Finset.sum_congr rfl fun index _ => ?_
  rw [(turn_queues env server frame bound (initializes index)).2 (parses index)]

theorem turn_plain {frame : Frame} (parses : ∀ index, frame.parses index = false)
    (initializes : ∀ index, frame.initializes index = false)
    (plain : ∀ index cleared, frame ≠ .disconnect index .pushPending cleared)
    (enough : framesWeight (frame.turn env server bound).2 + 1 ≤ frame.weight) :
    1 + framesWeight (frame.turn env server bound).2 + (frame.turn env server bound).1.weight ≤
      frame.weight + server.weight := by
  have buffered := turn_buffered env server frame bound parses initializes
  have reported := turn_reported env server frame bound
  have pending := turn_pending env server frame bound
  have none_pushed : (match frame with
      | .disconnect _ .pushPending _ => 1
      | _ => 0) = 0 := by
    split
    · next index cleared => exact absurd rfl (plain index cleared)
    · rfl
  rw [none_pushed] at pending
  simp only [Server.weight]
  omega

theorem sendTurn_weight (env : Environment) (server : Server) (index : Index)
    (target : Option SessionId) (pc : SendPc) :
    framesWeight (resume index target (sendTurn env server index pc).2) + 1 ≤ pc.weight := by
  have next : (sendTurn env server index pc).2 = (pc.turn (server.sessions index)
      ((server.sessions index).socket.isSome && env.accepts server.calls)
      (env.garbage server.calls)).next := by
    simp only [sendTurn]
    split <;> rfl
  rw [next]
  cases pc with
  | idle | releaseEarly | releaseSent | releaseFailed | disconnect =>
    simp [SendPc.turn, resume, framesWeight, weight, SendPc.weight, DisconnectPc.weight,
      startDisconnect]
  | _ =>
    simp only [SendPc.turn]
    split_ifs <;>
      simp [resume, framesWeight, weight, SendPc.weight, DisconnectPc.weight, startDisconnect]

theorem parseTurn_paid (env : Environment) {index : Index} (incarnation : Nat)
    (default : (server.sessions index).recvQ.Default) :
    1 + framesWeight (parseTurn env server index incarnation).2 +
        9 * (parseTurn env server index incarnation).1.buffered ≤
      9 + 9 * server.buffered := by
  have sound := default.sound
  simp only [parseTurn, Server.parseTurn_classify sound]
  cases verdict : env.framer.classify (server.sessions index).recvQ.contents with
  | wait => simp [framesWeight]
  | reject => simp [framesWeight, startDisconnect, weight, DisconnectPc.weight]
  | frame length =>
    obtain ⟨positive, fits⟩ := env.framer.fits verdict
    have whole := env.header.holdsSize
    have announced := verdict
    simp only [Environment.framer] at announced
    obtain ⟨_, accepted, _⟩ := Framing.announce_frame announced
    rw [CRingBufferT.contents_length] at fits
    have allocated := sound.allocated (Nat.lt_of_lt_of_le positive fits)
    obtain ⟨_, left, _⟩ := sound.drained_spec allocated fits
    have buffered := server.buffered_modify index
      (CSession.storeRecvQ ((server.sessions index).recvQ.drained length))
    simp only [CSession.storeRecvQ, left] at buffered
    simp only [framesWeight, weight, List.map_cons, List.map_nil, List.sum_cons, List.sum_nil]
    omega

theorem moveWritePtrTurn_paid {index : Index} (incarnation bytesTransferred : Nat)
    (default : (server.sessions index).recvQ.Default) :
    1 + framesWeight (moveWritePtrTurn server index incarnation bytesTransferred).2 +
        9 * (moveWritePtrTurn server index incarnation bytesTransferred).1.buffered ≤
      20 + 9 * bytesTransferred + 9 * server.buffered := by
  have grown := default.sound.moveWritePtr_dataSize bytesTransferred
  have buffered := server.buffered_modify index
    (CSession.storeRecvQ ((server.sessions index).recvQ.moveWritePtr bytesTransferred).1)
  simp only [CSession.storeRecvQ] at buffered
  simp only [moveWritePtrTurn]
  split
  · simp [framesWeight, startDisconnect, weight, DisconnectPc.weight]
    omega
  · split
    · simp [framesWeight, startDisconnect, weight, DisconnectPc.weight]
      omega
    · simp [framesWeight, weight]
      omega

theorem initialize_buffered (pc : InitializePc) (index : Index) (clientSocket : Socket)
    (sessionId : SessionId) (rings : server.Every Rings) :
    (server.modify index (pc.store clientSocket sessionId)).buffered ≤ server.buffered := by
  have buffered := server.buffered_modify index (pc.store clientSocket sessionId)
  have smaller : (pc.store clientSocket sessionId (server.sessions index)).recvQ.getDataSize ≤
      (server.sessions index).recvQ.getDataSize := by
    rw [InitializePc.store_recvQ]
    split
    · rw [(rings index).recvQ.sound.clear_dataSize]
      exact Nat.zero_le _
    · exact le_rfl
  omega

theorem turn_paid (env : Environment) (frame : Frame) (bound : Bool)
    (rings : server.Every Rings) :
    1 + framesWeight (frame.turn env server bound).2 + (frame.turn env server bound).1.weight ≤
      frame.weight + server.weight := by
  have reported := turn_reported env server frame bound
  have pending := turn_pending env server frame bound
  cases frame with
  | parse index incarnation =>
    have paid := parseTurn_paid env incarnation (rings index).recvQ
    simp at pending
    simp only [turn, Server.weight] at reported pending ⊢
    simp only [weight]
    omega
  | moveWritePtr index incarnation bytesTransferred =>
    have paid := moveWritePtrTurn_paid incarnation bytesTransferred (rings index).recvQ
    simp at pending
    simp only [turn, Server.weight] at reported pending ⊢
    simp only [weight]
    omega
  | initializeSession pc index clientSocket sessionId =>
    have paid := initialize_buffered pc index clientSocket sessionId rings
    have later : framesWeight (turn env server bound
        (.initializeSession pc index clientSocket sessionId)).2 + 1 ≤ pc.weight := by
      cases pc <;> simp [turn, InitializePc.next, framesWeight, weight, InitializePc.weight]
    simp only [turn, Server.weight] at reported pending later ⊢
    simp at pending
    simp only [weight]
    omega
  | disconnect index pc cleared =>
    cases pc with
    | pushPending =>
      have buffered := turn_buffered env server (.disconnect index .pushPending cleared) bound
        (fun _ => rfl) (fun _ => rfl)
      have later : framesWeight (turn env server bound
          (.disconnect index .pushPending cleared)).2 = 2 := rfl
      simp at pending
      simp only [Server.weight, weight, DisconnectPc.weight]
      omega
    | exchange =>
      refine turn_plain (fun _ => rfl) (fun _ => rfl) (fun _ _ => by simp) ?_
      simp only [turn, disconnectTurn]
      split <;> simp [framesWeight, weight, DisconnectPc.weight]
    | _ => exact turn_plain (fun _ => rfl) (fun _ => rfl) (fun _ _ => by simp) le_rfl
  | releaseSession =>
    have buffered := turn_buffered env server .releaseSession bound (fun _ => rfl) (fun _ => rfl)
    cases stack : server.pendingDisconStack with
    | nil =>
      exact turn_plain (fun _ => rfl) (fun _ => rfl) (fun _ _ => by simp)
        (by simp [turn, stack, framesWeight, weight])
    | cons sessionId rest =>
      have later : framesWeight (turn env server bound .releaseSession).2 = 2 := by
        simp [turn, stack, framesWeight, weight]
      simp [stack] at pending
      simp only [Server.weight, weight, stack, List.length_cons]
      omega
  | send index target pc =>
    exact turn_plain (fun _ => rfl) (fun _ => rfl) (fun _ _ => by simp)
      (sendTurn_weight env server index target pc)
  | release sessionId | announceConnect index clientSocket sessionId =>
    exact turn_plain (fun _ => rfl) (fun _ => rfl) (fun _ _ => by simp)
      (by simp [turn, framesWeight, weight])
  | findSend sessionId payload | findDisconnect sessionId | deliver index incarnation bytes
  | postRecv index incarnation | processAccept clientSocket
  | bindIOCP index clientSocket sessionId =>
    refine turn_plain (fun _ => rfl) (fun _ => rfl) (fun _ _ => by simp) ?_
    simp only [turn, deliverTurn, processAcceptTurn, bindTurn]
    split <;>
      simp [framesWeight, weight, startDisconnect, DisconnectPc.weight, InitializePc.weight,
        SendPc.weight]
  | wsaRecv index incarnation =>
    refine turn_plain (fun _ => rfl) (fun _ => rfl) (fun _ _ => by simp) ?_
    simp only [turn, wsaRecvTurn]
    split
    · simp [framesWeight, weight, startDisconnect, DisconnectPc.weight]
    · dsimp only
      split <;> simp [framesWeight, weight, startDisconnect, DisconnectPc.weight]
  | dispatch completion =>
    refine turn_plain (fun _ => rfl) (fun _ => rfl) (fun _ _ => by simp) ?_
    simp only [turn]
    split
    · simp only [framesWeight, weight, startDisconnect, DisconnectPc.weight, List.map_cons,
        List.map_nil, List.sum_cons, List.sum_nil]
      omega
    · split <;>
        · simp only [framesWeight, weight, List.map_cons, List.map_nil, List.sum_cons,
            List.sum_nil]
          omega
  | checkId completion =>
    refine turn_plain (fun _ => rfl) (fun _ => rfl) (fun _ _ => by simp) ?_
    simp only [turn, checkIdTurn]
    split
    · simp only [framesWeight, List.map_nil, List.sum_nil, weight]
      omega
    · split <;>
        · simp only [framesWeight, weight, SendPc.weight, List.map_cons, List.map_nil,
            List.sum_cons, List.sum_nil]
          omega

end Frame

namespace Turn

variable {Thread : Type}

-- What a turn of a run is: a statement, the beginning of a handler or bytes that Winsock moves.
def statements : MiniGames.Turn Thread → Nat
  | .run _ _ => 1
  | _ => 0

def handlers : MiniGames.Turn Thread → Nat
  | .accept | .acceptFailed | .worker _ _ | .requestSendMsg _ _ _
  | .requestDisconnectSession _ _ => 1
  | _ => 0

def moved : MiniGames.Turn Thread → Nat
  | .receive _ bytes => bytes.length
  | .transmit _ count => count
  | _ => 0

end Turn

namespace Machine

variable {env : Environment} {Thread : Type} [DecidableEq Thread] [Fintype Thread]
  {machine next : Machine Thread}

def weight (machine : Machine Thread) : Nat :=
  machine.server.weight + ∑ thread, framesWeight (machine.threads thread)

theorem threads_weight (threads : Option Thread → List Frame) (thread : Option Thread)
    (frames : List Frame) :
    ∑ other, framesWeight (Function.update threads thread frames other) +
        framesWeight (threads thread) =
      ∑ other, framesWeight (threads other) + framesWeight frames :=
  sum_update framesWeight threads thread frames

theorem begun_weight {thread : Option Thread} (idle : machine.threads thread = [])
    (frames : List Frame) :
    ∑ other, framesWeight (Function.update machine.threads thread frames other) =
      ∑ other, framesWeight (machine.threads other) + framesWeight frames := by
  have sum := threads_weight machine.threads thread frames
  rw [idle] at sum
  exact sum

theorem moves_paid {turn : MiniGames.Turn Thread} (rings : machine.server.Every Rings)
    (moves : Moves env machine turn next) :
    turn.statements + next.weight ≤ machine.weight + (22 * turn.handlers + 9 * turn.moved) := by
  cases moves with
  | run thread bound frame rest top =>
    have paid := frame.turn_paid env bound rings
    have sum := threads_weight machine.threads thread
      ((frame.turn env machine.server bound).2 ++ rest)
    rw [top] at sum
    simp only [framesWeight, List.map_append, List.sum_append, List.map_cons,
      List.sum_cons] at paid sum
    simp only [weight, runFrame, Turn.statements, Turn.handlers, Turn.moved, framesWeight]
    omega
  | accept idle =>
    simp only [weight, Turn.statements, Turn.handlers, Turn.moved, begun_weight idle]
    simp [framesWeight, Frame.weight, Server.weight, Server.buffered, Server.reported]
    omega
  | acceptFailed idle =>
    simp only [weight, Turn.statements, Turn.handlers, Turn.moved, begun_weight idle]
    simp [framesWeight, Frame.weight]
    omega
  | receive position bytes request found receive fits =>
    have filled := machine.server.modify_weight request.index (fun session =>
      { session with recvQ := Server.fill session.recvQ request.segments bytes }) fun _ => rfl
    simp only [weight, Server.complete_weight, filled, Turn.statements, Turn.handlers, Turn.moved]
    omega
  | transmit position count request found send some fits =>
    simp only [weight, Server.complete_weight, Turn.statements, Turn.handlers, Turn.moved]
    omega
  | fail position request found =>
    simp only [weight, Server.complete_weight, Turn.statements, Turn.handlers, Turn.moved]
    omega
  | worker thread position completion found idle =>
    have dequeued := Server.dequeueCompletion_weight found
    simp only [weight, Turn.statements, Turn.handlers, Turn.moved, begun_weight idle]
    simp only [framesWeight, List.map_cons, List.map_nil, List.sum_cons, List.sum_nil,
      Frame.weight]
    omega
  | requestSendMsg thread sessionId payload idle =>
    simp only [weight, Turn.statements, Turn.handlers, Turn.moved, begun_weight idle]
    simp [framesWeight, Frame.weight]
    omega
  | requestDisconnectSession thread sessionId idle =>
    simp only [weight, Turn.statements, Turn.handlers, Turn.moved, begun_weight idle]
    simp [framesWeight, Frame.weight]
    omega

/-- However the threads interleave, they run at most 22 statements for each handler that was begun
and 9 for each byte that Winsock has moved. -/
theorem statements_linear {turns : List (MiniGames.Turn Thread)} {final : Machine Thread}
    (ran : execute (step env) (start env) turns = some final) :
    (turns.map Turn.statements).sum ≤
      22 * (turns.map Turn.handlers).sum + 9 * (turns.map Turn.moved).sum := by
  have constructed : (start env : Machine Thread).server.Every Rings :=
    fun index => Rings.constructed (env.recvMemory index) (env.sendMemory index)
  have nothing : (start env : Machine Thread).weight = 0 := by
    have empty (index : Index) : ((Server.start env).sessions index).recvQ.getDataSize = 0 :=
      (CRingBufferT.new_default (env.recvMemory index)).sound.clear_dataSize
    simp [weight, start, framesWeight, Server.weight, Server.buffered, Server.reported, empty]
    exact ⟨rfl, rfl⟩
  have charged := execute_charged weight Turn.statements
    (fun turn => 22 * turn.handlers + 9 * turn.moved)
    (fun machine turn next rings taken => (step_moves taken).rings rings)
    (fun machine turn next rings taken => moves_paid rings (step_moves taken)) constructed ran
  have sums : (turns.map fun turn => 22 * turn.handlers + 9 * turn.moved).sum =
      22 * (turns.map Turn.handlers).sum + 9 * (turns.map Turn.moved).sum := by
    rw [List.sum_map_add, List.sum_map_mul_left, List.sum_map_mul_left]
  omega

-- A client is accepted, and a worker parses its packet.
theorem statements_linear_packet :
    ∃ (turns : List (MiniGames.Turn (Fin 1))) (final : Machine (Fin 1)),
      execute (step Server.oneSlot) (start Server.oneSlot) turns = some final ∧
      (turns.map Turn.statements).sum = 21 ∧
      21 ≤ 22 * (turns.map Turn.handlers).sum + 9 * (turns.map Turn.moved).sum := by
  let schedule : List (List (MiniGames.Turn (Fin 1))) :=
    [[.accept], List.replicate 13 (.run none true), [.receive 0 [6, 0, 5, 0, 6, 0], .worker 0 0],
      List.replicate 8 (.run (some 0) true)]
  have ends : (execute (step Server.oneSlot) (start Server.oneSlot) schedule.flatten).isSome := by
    decide +kernel
  obtain ⟨final, ran⟩ := Option.isSome_iff_exists.mp ends
  exact ⟨schedule.flatten, final, ran, rfl, statements_linear ran⟩

end Machine

end MiniGames
