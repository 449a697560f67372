import MiniGames.Network.ReceiveWindow
import MiniGames.Network.ThreadSteps

set_option autoImplicit false

namespace MiniGames

open Circular CRingBufferT

namespace CRingBufferT

structure Default (ring : CRingBufferT) : Prop where
  sound : ring.Sound
  capacity : ring.capacity = 65536

namespace Default

variable {ring : CRingBufferT} (default : ring.Default)

include default

theorem narrow : ring.capacity ≤ 2 ^ 32 := by
  rw [default.capacity]
  decide

theorem keep {next : CRingBufferT} (kept : Kept ring next) : next.Default :=
  ⟨kept.sound default.sound, kept.capacity.trans default.capacity⟩

theorem enqueue (data : Option (List UInt8)) (size : Nat) : (ring.enqueue data size).1.Default :=
  default.keep (enqueue_kept ring data size)

theorem dequeue (destination : Bool) (size : Nat) : (ring.dequeue destination size).1.Default :=
  default.keep (dequeue_kept ring destination size)

theorem consume (size : Nat) : (ring.consume size).1.Default :=
  default.keep (consume_kept ring size)

theorem moveWritePtr (size : Nat) : (ring.moveWritePtr size).1.Default :=
  default.keep (moveWritePtr_kept ring size)

theorem fill (segments : List Segment) (bytes : List UInt8) :
    (Server.fill ring segments bytes).Default :=
  default.keep (Server.fill_kept ring segments bytes)

theorem clear : ring.clear.Default := default.keep (clear_kept ring)

end Default

theorem new_default (allocated : Option (Nat → UInt8)) : (new 65536 allocated).Default :=
  ⟨new_sound allocated (by decide) (by decide), rfl⟩

end CRingBufferT

structure Rings (session : CSession) : Prop where
  recvQ : session.recvQ.Default
  sendQ : session.sendQ.Default

namespace Rings

theorem statement (session next : CSession) (statement : Statement session next)
    (rings : Rings session) : Rings next := by
  obtain ⟨recvQ, sendQ⟩ := rings
  cases statement with
  | moveWritePtr size => exact ⟨recvQ.moveWritePtr size, sendQ⟩
  | dequeue size => exact ⟨recvQ.dequeue true size, sendQ⟩
  | fill segments bytes => exact ⟨recvQ.fill segments bytes, sendQ⟩
  | enqueue data size => exact ⟨recvQ, sendQ.enqueue data size⟩
  | consume size => exact ⟨recvQ, sendQ.consume size⟩
  | _ => exact ⟨recvQ, sendQ⟩

theorem store {session : CSession} (pc : InitializePc) (clientSocket : Socket)
    (sessionId : SessionId) (rings : Rings session) :
    Rings (pc.store clientSocket sessionId session) := by
  obtain ⟨recvQ, sendQ⟩ := rings
  cases pc with
  | recvQ => exact ⟨recvQ.clear, sendQ⟩
  | sendQ => exact ⟨recvQ, sendQ.clear⟩
  | _ => exact ⟨recvQ, sendQ⟩

theorem constructed (recvMemory sendMemory : Option (Nat → UInt8)) :
    Rings (.new recvMemory sendMemory) :=
  ⟨(new_default recvMemory).clear, (new_default sendMemory).clear⟩

end Rings

namespace Server

theorem close_queues (server : Server) (index other : Index) :
    ((server.close index).sessions other).sendQ = (server.sessions other).sendQ ∧
      ((server.close index).sessions other).recvQ = (server.sessions other).recvQ := by
  simp only [close]
  split
  · rw [modify_sessions]
    split
    · next same =>
      subst same
      exact ⟨rfl, rfl⟩
    · exact ⟨rfl, rfl⟩
  · exact ⟨rfl, rfl⟩

theorem post_outstanding {env : Environment} {server : Server} {index : Index}
    {operation : IOOperation} {segments : List Segment} {request : IORequest}
    (member : request ∈ (server.post env index operation segments).1.outstanding) :
    request ∈ server.outstanding ∨ ∃ socket, (server.sessions index).socket = some socket ∧
      request = ⟨index, operation, socket, segments, (server.sessions index).incarnation⟩ := by
  simp only [post] at member
  split at member
  · next socket opened =>
    split at member
    · rcases List.mem_append.mp member with old | new
      · exact .inl old
      · exact .inr ⟨socket, opened, List.mem_singleton.mp new⟩
    · exact .inl member
  · exact .inl member

theorem close_outstanding {server : Server} {index : Index} {request : IORequest}
    (member : request ∈ (server.close index).outstanding) : request ∈ server.outstanding := by
  simp only [close] at member
  split at member
  · exact (List.mem_filter.mp member).1
  · exact member

theorem closesocket_completions {server : Server} {socket : Socket} {completion : Completion}
    (member : completion ∈ (server.closesocket socket).completions) :
    completion ∈ server.completions ∨
      completion.request ∈ server.outstanding ∧ completion.result = false := by
  rcases List.mem_append.mp member with old | cancelled
  · exact .inl old
  · obtain ⟨request, closed, rfl⟩ := List.mem_map.mp cancelled
    exact .inr ⟨(List.mem_filter.mp closed).1, rfl⟩

theorem close_completions {server : Server} {index : Index} {completion : Completion}
    (member : completion ∈ (server.close index).completions) :
    completion ∈ server.completions ∨
      completion.request ∈ server.outstanding ∧ completion.result = false := by
  simp only [close] at member
  split at member
  · exact closesocket_completions member
  · exact .inl member

theorem post_completions (env : Environment) (server : Server) (index : Index)
    (operation : IOOperation) (segments : List Segment) :
    (server.post env index operation segments).1.completions = server.completions := by
  simp only [post]
  split
  · split <;> rfl
  · rfl

end Server

namespace Frame

def sends (index : Index) : Frame → Bool
  | .send slot _ _ => slot = index
  | _ => false

def parses (index : Index) : Frame → Bool
  | .moveWritePtr slot _ _ | .parse slot _ => slot = index
  | _ => false

def initializes (index : Index) : Frame → Bool
  | .initializeSession _ slot _ _ => slot = index
  | _ => false

theorem sendTurn_sessions (env : Environment) (server : Server) (slot : Index) (pc : SendPc) :
    (sendTurn env server slot pc).1.sessions = (server.modify slot fun _ =>
      (pc.turn (server.sessions slot)
        ((server.sessions slot).socket.isSome && env.accepts server.calls)
        (env.garbage server.calls)).session).sessions := by
  simp only [sendTurn]
  split
  · exact Server.post_sessions _ _ _ _ _
  · rfl

theorem sendTurn_recvQ (session : CSession) (accepted : Bool) (garbage : Nat) (pc : SendPc) :
    (pc.turn session accepted garbage).session.recvQ = session.recvQ := by
  cases pc with
  | wsaSend info =>
    simp only [SendPc.turn]
    split <;> rfl
  | wsaSendRest info =>
    simp only [SendPc.turn]
    split <;> rfl
  | _ => rfl

theorem turn_queues (env : Environment) (server : Server) (frame : Frame) (bound : Bool)
    {index : Index} (other : frame.initializes index = false) :
    (frame.sends index = false → ((frame.turn env server bound).1.sessions index).sendQ =
        (server.sessions index).sendQ) ∧
      (frame.parses index = false → ((frame.turn env server bound).1.sessions index).recvQ =
        (server.sessions index).recvQ) := by
  have closed (slot : Index) := server.close_queues slot index
  -- A store to another field of a session leaves its rings as they are.
  have stored (slot : Index) (change : CSession → CSession)
      (sendQ : (change (server.sessions slot)).sendQ = (server.sessions slot).sendQ)
      (recvQ : (change (server.sessions slot)).recvQ = (server.sessions slot).recvQ) :
      ((server.modify slot change).sessions index).sendQ = (server.sessions index).sendQ ∧
        ((server.modify slot change).sessions index).recvQ = (server.sessions index).recvQ := by
    rw [Server.modify_sessions]
    split
    · next same =>
      subst same
      exact ⟨sendQ, recvQ⟩
    · exact ⟨rfl, rfl⟩
  have kept {next : Server} (same : (next.sessions index).sendQ = (server.sessions index).sendQ ∧
        (next.sessions index).recvQ = (server.sessions index).recvQ) :
      (frame.sends index = false → (next.sessions index).sendQ = (server.sessions index).sendQ) ∧
        (frame.parses index = false →
          (next.sessions index).recvQ = (server.sessions index).recvQ) :=
    ⟨fun _ => same.1, fun _ => same.2⟩
  cases frame with
  | send slot target pc =>
    simp only [turn, sendTurn_sessions, Server.modify_sessions]
    split
    · next same =>
      subst same
      exact ⟨fun apart => by simp [sends] at apart, fun _ => sendTurn_recvQ _ _ _ pc⟩
    · exact ⟨fun _ => rfl, fun _ => rfl⟩
  | disconnect slot pc cleared =>
    refine kept ?_
    cases pc with
    | exchange =>
      simp only [turn, disconnectTurn]
      split
      · exact stored slot _ rfl rfl
      · exact ⟨rfl, rfl⟩
    | close => exact closed slot
    | clearSending => exact stored slot _ rfl rfl
    | pushEvent sessionId =>
      simp only [turn, disconnectTurn, Server.announceDisconnect]
      split <;> exact ⟨rfl, rfl⟩
    | _ => exact ⟨rfl, rfl⟩
  | moveWritePtr slot poster size =>
    simp only [turn, moveWritePtrTurn]
    split
    · exact ⟨fun _ => rfl, fun _ => rfl⟩
    · rw [Server.modify_sessions]
      split
      · next same =>
        subst same
        exact ⟨fun _ => rfl, fun apart => by simp [parses] at apart⟩
      · exact ⟨fun _ => rfl, fun _ => rfl⟩
  | parse slot poster =>
    simp only [turn, parseTurn]
    split
    · exact ⟨fun _ => rfl, fun _ => rfl⟩
    · exact ⟨fun _ => rfl, fun _ => rfl⟩
    · rw [Server.modify_sessions]
      split
      · next same =>
        subst same
        exact ⟨fun _ => rfl, fun apart => by simp [parses] at apart⟩
      · exact ⟨fun _ => rfl, fun _ => rfl⟩
  | deliver slot poster bytes =>
    refine kept ?_
    simp only [turn, deliverTurn]
    split <;> exact ⟨rfl, rfl⟩
  | wsaRecv slot poster =>
    refine kept ?_
    have armed := stored slot CSession.armRecv rfl rfl
    simp only [turn, wsaRecvTurn]
    split
    · exact armed
    · rw [Server.post_sessions]
      exact armed
  | releaseSession =>
    refine kept ?_
    simp only [turn]
    split <;> exact ⟨rfl, rfl⟩
  | release sessionId =>
    refine kept ?_
    simp only [turn, Server.releaseOne]
    split
    · exact closed _
    · exact ⟨rfl, rfl⟩
  | processAccept clientSocket =>
    refine kept ?_
    simp only [turn, processAcceptTurn]
    split <;> exact ⟨rfl, rfl⟩
  | initializeSession pc slot clientSocket sessionId =>
    have apart : index ≠ slot := by
      rintro rfl
      simp [initializes] at other
    refine kept ?_
    simp [turn, Server.modify_sessions, apart]
  | bindIOCP slot clientSocket sessionId =>
    refine kept ?_
    simp only [turn, bindTurn]
    split
    · exact ⟨rfl, rfl⟩
    · exact closed slot
  | announceConnect slot clientSocket sessionId =>
    refine kept ?_
    simp only [turn, Server.announceConnect]
    split <;> exact ⟨rfl, rfl⟩
  | _ => exact ⟨fun _ => rfl, fun _ => rfl⟩

theorem called_eq {session : CSession} {accepted : Bool} {garbage : Nat} {pc : SendPc}
    {segments : List Segment} (called : (pc.turn session accepted garbage).called = some segments) :
    ∃ info, (pc = .wsaSend info ∨ pc = .wsaSendRest info) ∧
      segments = Server.sendBuffers info := by
  cases pc with
  | wsaSend info =>
    simp only [SendPc.turn] at called
    split at called
    · cases called
    · exact ⟨info, .inl rfl, (Option.some.inj called).symm⟩
  | wsaSendRest info =>
    simp only [SendPc.turn] at called
    split at called
    · cases called
    · exact ⟨info, .inr rfl, (Option.some.inj called).symm⟩
  | _ => cases called

theorem turn_outstanding {env : Environment} {server : Server} {frame : Frame} {bound : Bool}
    {request : IORequest} (member : request ∈ (frame.turn env server bound).1.outstanding) :
    request ∈ server.outstanding ∨
      (server.sessions request.index).socket = some request.socket ∧
        request.incarnation = (server.sessions request.index).incarnation ∧
        ((∃ poster, frame = .wsaRecv request.index poster ∧ request.operation = .recv ∧
            request.segments = Server.recvBuffers (server.sessions request.index).recvQ) ∨
          ∃ target pc info, frame = .send request.index target pc ∧ request.operation = .send ∧
            (pc = .wsaSend info ∨ pc = .wsaSendRest info) ∧
            request.segments = Server.sendBuffers info) := by
  cases frame with
  | send index target pc =>
    simp only [turn, sendTurn] at member
    split at member
    · next segments called =>
      rcases Server.post_outstanding member with old | ⟨socket, opened, rfl⟩
      · exact .inl old
      · obtain ⟨info, at_pc, buffers⟩ := called_eq called
        have same : (pc.turn (server.sessions index)
            ((server.sessions index).socket.isSome && env.accepts server.calls)
            (env.garbage server.calls)).session = (server.sessions index).armSend := by
          rcases at_pc with rfl | rfl
          · simp only [SendPc.turn]
            split <;> rfl
          · simp only [SendPc.turn]
            split <;> rfl
        simp only [Server.modify_same, same] at opened
        refine .inr ⟨opened, ?_, .inr ⟨target, pc, info, rfl, rfl, at_pc, buffers⟩⟩
        simp only [Server.modify_same, same]
        rfl
    · exact .inl member
  | disconnect index pc cleared =>
    refine .inl ?_
    cases pc with
    | exchange =>
      simp only [turn, disconnectTurn] at member
      split at member <;> exact member
    | close => exact Server.close_outstanding member
    | pushEvent sessionId =>
      simp only [turn, disconnectTurn, Server.announceDisconnect] at member
      split at member <;> exact member
    | _ => exact member
  | moveWritePtr index poster size =>
    simp only [turn, moveWritePtrTurn] at member
    split at member <;> exact .inl member
  | parse index poster =>
    simp only [turn, parseTurn] at member
    split at member <;> exact .inl member
  | deliver index poster bytes =>
    simp only [turn, deliverTurn] at member
    split at member <;> exact .inl member
  | wsaRecv index poster =>
    simp only [turn, wsaRecvTurn] at member
    split at member
    · exact .inl member
    · rcases Server.post_outstanding member with old | ⟨socket, opened, rfl⟩
      · exact .inl old
      · simp only [Server.modify_same] at opened
        refine .inr ⟨opened, ?_, .inl ⟨poster, rfl, rfl, ?_⟩⟩ <;>
          simp only [Server.modify_same] <;> rfl
  | releaseSession =>
    simp only [turn] at member
    split at member <;> exact .inl member
  | release sessionId =>
    simp only [turn, Server.releaseOne] at member
    split at member
    · exact .inl (Server.close_outstanding member)
    · exact .inl member
  | processAccept clientSocket =>
    simp only [turn, processAcceptTurn] at member
    split at member
    · exact .inl (List.mem_filter.mp member).1
    · exact .inl member
  | bindIOCP index clientSocket sessionId =>
    simp only [turn, bindTurn] at member
    split at member
    · exact .inl member
    · exact .inl (Server.close_outstanding (List.mem_filter.mp member).1)
  | announceConnect index clientSocket sessionId =>
    simp only [turn, Server.announceConnect] at member
    split at member <;> exact .inl member
  | _ => exact .inl member

theorem turn_completions {env : Environment} {server : Server} {frame : Frame} {bound : Bool}
    {completion : Completion} (member : completion ∈ (frame.turn env server bound).1.completions) :
    completion ∈ server.completions ∨
      completion.request ∈ server.outstanding ∧ completion.result = false := by
  cases frame with
  | send index target pc =>
    simp only [turn, sendTurn] at member
    split at member
    · rw [Server.post_completions] at member
      exact .inl member
    · exact .inl member
  | disconnect index pc cleared =>
    cases pc with
    | exchange =>
      simp only [turn, disconnectTurn] at member
      split at member <;> exact .inl member
    | close => exact Server.close_completions member
    | pushEvent sessionId =>
      simp only [turn, disconnectTurn, Server.announceDisconnect] at member
      split at member <;> exact .inl member
    | _ => exact .inl member
  | moveWritePtr index poster size =>
    simp only [turn, moveWritePtrTurn] at member
    split at member <;> exact .inl member
  | parse index poster =>
    simp only [turn, parseTurn] at member
    split at member <;> exact .inl member
  | deliver index poster bytes =>
    simp only [turn, deliverTurn] at member
    split at member <;> exact .inl member
  | wsaRecv index poster =>
    simp only [turn, wsaRecvTurn] at member
    split at member
    · exact .inl member
    · rw [Server.post_completions] at member
      exact .inl member
  | releaseSession =>
    simp only [turn] at member
    split at member <;> exact .inl member
  | release sessionId =>
    simp only [turn, Server.releaseOne] at member
    split at member
    · exact Server.close_completions member
    · exact .inl member
  | processAccept clientSocket =>
    simp only [turn, processAcceptTurn] at member
    split at member
    · exact Server.closesocket_completions member
    · exact .inl member
  | bindIOCP index clientSocket sessionId =>
    simp only [turn, bindTurn] at member
    split at member
    · exact .inl member
    · rcases Server.closesocket_completions member with closed | ⟨posted, failed⟩
      · exact Server.close_completions closed
      · exact .inr ⟨Server.close_outstanding posted, failed⟩
  | announceConnect index clientSocket sessionId =>
    simp only [turn, Server.announceConnect] at member
    split at member <;> exact .inl member
  | _ => exact .inl member

end Frame

theorem Machine.Moves.rings {env : Environment} {Thread : Type} [DecidableEq Thread]
    {machine next : Machine Thread} {action : Turn Thread} (moves : Moves env machine action next)
    (rings : machine.server.Every Rings) : next.server.Every Rings := by
  refine moves.stable (Server.Every.stable Rings.statement) ?_ rings
  intro thread bound pc index clientSocket sessionId rest _ _
  exact rings.modify (Rings.store pc clientSocket sessionId)

end MiniGames
