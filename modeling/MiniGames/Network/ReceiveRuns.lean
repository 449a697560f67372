import MiniGames.Network.SessionRings
import MiniGames.Network.SessionRuns

set_option autoImplicit false

namespace MiniGames

open Circular CRingBufferT Framing Runs Server

theorem SendPc.turn_receive (session : CSession) (accepted : Bool) (garbage : Nat) (pc : SendPc) :
    (pc.turn session accepted garbage).session.recvQ = session.recvQ ∧
      (pc.turn session accepted garbage).session.recvOverlapped = session.recvOverlapped ∧
      (pc.turn session accepted garbage).session.sessionId = session.sessionId := by
  cases pc with
  | wsaSend info =>
    simp only [turn]
    split <;> exact ⟨rfl, rfl, rfl⟩
  | wsaSendRest info =>
    simp only [turn]
    split <;> exact ⟨rfl, rfl, rfl⟩
  | _ => exact ⟨rfl, rfl, rfl⟩

theorem SendPc.turn_valid (session : CSession) (accepted : Bool) (garbage : Nat) (pc : SendPc) :
    (pc.turn session accepted garbage).session.valid = (session.valid && pc ≠ .disconnect) := by
  cases pc with
  | wsaSend info =>
    simp only [turn]
    split <;> simp [CSession.armSend]
  | wsaSendRest info =>
    simp only [turn]
    split <;> simp [CSession.armSend]
  | _ => simp [turn, CSession.storeValid, CSession.storeSending, CSession.storeSendQ]

namespace SessionState

variable {env : Environment} {Thread : Type}

section Phases

variable (env) (state : SessionState Thread)

def Streams (rest : List UInt8) : Prop :=
  env.framer.parse state.received = (env.framer.parse rest).after state.taken

def Waits (rest : List UInt8) : Prop := env.framer.classify rest = .wait

def Rejects (rest : List UInt8) : Prop := env.framer.classify rest = .reject

-- The session is disconnected, or is by the next statement of a thread.
def Leaves (thread : Thread) : Prop :=
  state.session.valid = false ∨ state.send.threads thread = .disconnect

def Armed : Prop := state.session.recvOverlapped = ⟨state.session.sessionId, .recv⟩

def Filled (size : Nat) : Prop :=
  ∃ ring bytes, ring.Default ∧ bytes.length = size ∧ size ≤ ring.getFreeSize ∧
    (bytes = [] ∨ ring.buffer.isSome = true) ∧
    state.session.recvQ = fill ring (recvBuffers ring) bytes ∧
    Waits env ring.contents ∧ state.Streams env (ring.contents ++ bytes)

def Phase : Receive Thread → Prop
  | .posted segments => state.Armed ∧ segments = recvBuffers state.session.recvQ ∧
      Waits env state.session.recvQ.contents ∧ state.Streams env state.session.recvQ.contents
  | .completed size => state.Armed ∧ state.Filled env size
  | .handled _ (.moveWritePtr size) => 0 < size ∧ state.Filled env size
  | .handled _ .parse => state.Streams env state.session.recvQ.contents
  | .handled _ (.deliver bytes) =>
      bytes.length ≤ 65535 ∧ state.Streams env state.session.recvQ.contents
  | .handled thread .postRecv => state.Streams env state.session.recvQ.contents ∧
      (Waits env state.session.recvQ.contents ∨
        Rejects env state.session.recvQ.contents ∧ state.Leaves thread)
  | .handled _ .wsaRecv =>
      Waits env state.session.recvQ.contents ∧ state.Streams env state.session.recvQ.contents
  | .ended => (∃ rest, state.Streams env rest) ∧ ∃ thread, state.Leaves thread

structure Receiving : Prop where
  ring : state.session.recvQ.Default
  phase : state.Phase env state.receive

end Phases

structure Still (state next : SessionState Thread) : Prop where
  receive : next.receive = state.receive
  received : next.received = state.received
  taken : next.taken = state.taken
  ring : next.session.recvQ = state.session.recvQ
  overlapped : next.session.recvOverlapped = state.session.recvOverlapped
  sessionId : next.session.sessionId = state.session.sessionId
  leaves : ∀ thread, state.Leaves thread → next.Leaves thread

variable {state next : SessionState Thread}

theorem Still.streams (still : Still state next) {rest : List UInt8}
    (streams : state.Streams env rest) : next.Streams env rest := by
  simpa only [Streams, still.received, still.taken] using streams

theorem Still.filled (still : Still state next) {size : Nat} (filled : state.Filled env size) :
    next.Filled env size := by
  obtain ⟨ring, bytes, default, length, room, memory, stored, waits, streams⟩ := filled
  exact ⟨ring, bytes, default, length, room, memory, still.ring.trans stored, waits,
    still.streams streams⟩

theorem Still.armed (still : Still state next) (armed : state.Armed) : next.Armed := by
  simpa only [Armed, still.overlapped, still.sessionId] using armed

theorem Receiving.still (receiving : Receiving env state) (still : Still state next) :
    Receiving env next := by
  obtain ⟨ring, phase⟩ := receiving
  refine ⟨still.ring ▸ ring, ?_⟩
  rw [still.receive]
  cases at_phase : state.receive with
  | posted segments =>
    simp only [at_phase, Phase, still.ring] at phase ⊢
    exact ⟨still.armed phase.1, phase.2.1, phase.2.2.1, still.streams phase.2.2.2⟩
  | completed size =>
    simp only [at_phase, Phase] at phase ⊢
    exact ⟨still.armed phase.1, still.filled phase.2⟩
  | handled thread pc =>
    cases pc with
    | moveWritePtr size =>
      simp only [at_phase, Phase] at phase ⊢
      exact ⟨phase.1, still.filled phase.2⟩
    | parse =>
      simp only [at_phase, Phase, still.ring] at phase ⊢
      exact still.streams phase
    | deliver bytes =>
      simp only [at_phase, Phase, still.ring] at phase ⊢
      exact ⟨phase.1, still.streams phase.2⟩
    | postRecv =>
      simp only [at_phase, Phase, still.ring] at phase ⊢
      exact ⟨still.streams phase.1, phase.2.imp_right (And.imp_right (still.leaves thread))⟩
    | wsaRecv =>
      simp only [at_phase, Phase, still.ring] at phase ⊢
      exact ⟨phase.1, still.streams phase.2⟩
  | ended =>
    simp only [at_phase, Phase] at phase ⊢
    obtain ⟨⟨rest, streams⟩, thread, leaves⟩ := phase
    exact ⟨⟨rest, still.streams streams⟩, thread, still.leaves thread leaves⟩

theorem Receiving.streams (receiving : Receiving env state) : ∃ rest, state.Streams env rest := by
  obtain ⟨_, phase⟩ := receiving
  cases at_phase : state.receive with
  | posted segments =>
    rw [at_phase] at phase
    exact ⟨_, phase.2.2.2⟩
  | completed size =>
    rw [at_phase] at phase
    obtain ⟨_, _, _, _, _, _, _, _, _, streams⟩ := phase
    exact ⟨_, streams⟩
  | handled thread pc =>
    cases pc with
    | moveWritePtr size =>
      rw [at_phase] at phase
      obtain ⟨_, _, _, _, _, _, _, _, _, streams⟩ := phase
      exact ⟨_, streams⟩
    | parse =>
      rw [at_phase] at phase
      exact ⟨_, phase⟩
    | deliver bytes =>
      rw [at_phase] at phase
      exact ⟨_, phase.2⟩
    | postRecv =>
      rw [at_phase] at phase
      exact ⟨_, phase.1⟩
    | wsaRecv =>
      rw [at_phase] at phase
      exact ⟨_, phase.2⟩
  | ended =>
    rw [at_phase] at phase
    exact phase.1

theorem Receiving.receive (receiving : Receiving env state) {segments : List Segment}
    {bytes : List UInt8} (posted : state.receive = .posted segments)
    (fits : bytes.length ≤ total segments)
    (memory : bytes = [] ∨ state.session.recvQ.buffer.isSome = true) :
    Receiving env { state.modify fun session =>
        session.storeRecvQ (fill session.recvQ segments bytes) with
      receive := .completed bytes.length
      received := state.received ++ bytes } := by
  obtain ⟨ring, phase⟩ := receiving
  simp only [posted, Phase] at phase
  obtain ⟨armed, rfl, waits, streams⟩ := phase
  rw [recvBuffers_total ring.sound ring.narrow] at fits
  refine ⟨ring.fill _ _, armed, state.session.recvQ, bytes, ring, rfl, fits, memory, rfl, waits, ?_⟩
  simp only [Streams] at streams ⊢
  rw [parse_append, streams, feed_after, parse_append]
  rfl

theorem Filled.moves {size : Nat} (filled : state.Filled env size) (some : 0 < size) :
    (state.session.recvQ.moveWritePtr size).2.returned = size ∧
      state.Streams env (state.session.recvQ.moveWritePtr size).1.contents := by
  obtain ⟨ring, bytes, default, rfl, room, memory, stored, waits, streams⟩ := filled
  have nonempty : bytes ≠ [] := List.ne_nil_of_length_pos some
  have allocated := memory.resolve_left nonempty
  have moved := fill_moveWritePtr default.sound default.narrow allocated nonempty room
  obtain ⟨_, _, contents⟩ := default.sound.enqueued_spec room
  rw [stored, moved]
  exact ⟨rfl, contents ▸ streams⟩

theorem Waits.window (ring : state.session.recvQ.Default)
    (waits : Waits env state.session.recvQ.contents) :
    recvBuffers state.session.recvQ ≠ [] := by
  have short := Environment.waits_short waits
  rw [contents_length] at short
  have free := ring.sound.freeSize_eq
  have capacity := ring.capacity
  have size := recvBuffers_total ring.sound ring.narrow
  intro none
  rw [none] at size
  simp only [total, List.map_nil, List.sum_nil] at size
  omega

variable [DecidableEq Thread] {thread : Thread}

theorem leaves_enter {pc : SendPc} (idle : state.send.threads thread = .idle) (other : Thread)
    (leaves : state.Leaves other) : (state.enter thread pc).Leaves other := by
  rcases leaves with invalid | leaving
  · exact .inl invalid
  · have differs : other ≠ thread := by
      rintro rfl
      rw [idle] at leaving
      cases leaving
    exact .inr (by simpa [enter, SendState.enter, differs] using leaving)

theorem enter_leaves (state : SessionState Thread) (thread : Thread) :
    (state.enter thread .disconnect).Leaves thread :=
  .inr (by simp [enter, SendState.enter])

theorem run_still (state : SessionState Thread) (thread : Thread) (accepted : Bool) (garbage : Nat) :
    Still state { state with send := state.send.run thread accepted garbage } := by
  obtain ⟨ring, overlapped, sessionId⟩ :=
    (state.send.threads thread).turn_receive state.session accepted garbage
  have valid := (state.send.threads thread).turn_valid state.session accepted garbage
  refine ⟨rfl, rfl, rfl, ring, overlapped, sessionId, ?_⟩
  intro other leaves
  rcases leaves with invalid | leaving
  · exact .inl (valid.trans (by simp [invalid]))
  · by_cases same : other = thread
    · subst same
      exact .inl (valid.trans (by simp [leaving]))
    · exact .inr (by simpa [SendState.run, same] using leaving)

theorem Receiving.dispatch (receiving : Receiving env state) {size : Nat}
    (completed : state.receive = .completed size) : Receiving env (state.dispatch thread size) := by
  have parsed := receiving.streams
  obtain ⟨ring, phase⟩ := receiving
  simp only [completed, Phase, Armed] at phase
  obtain ⟨armed, filled⟩ := phase
  simp only [SessionState.dispatch]
  split
  · exact ⟨ring, parsed, thread, enter_leaves state thread⟩
  · next some =>
    split
    · next invalid => exact ⟨ring, parsed, thread, .inl invalid⟩
    · simp only [armed, ne_eq, not_true, if_false]
      exact ⟨ring, Nat.pos_of_ne_zero some, filled⟩

theorem Receiving.parse (receiving : Receiving env state)
    (handled : state.receive = .handled thread .parse) (accepted : Bool) :
    Receiving env (state.receiveTurn env thread accepted .parse) := by
  obtain ⟨ring, phase⟩ := receiving
  simp only [handled, Phase] at phase
  simp only [receiveTurn, parseTurn_classify ring.sound]
  cases verdict : env.framer.classify state.session.recvQ.contents with
  | wait => exact ⟨ring, phase, .inl verdict⟩
  | reject => exact ⟨ring, phase, .inr ⟨verdict, enter_leaves state thread⟩⟩
  | frame length =>
    have fits := env.framer.fits verdict
    rw [contents_length] at fits
    have small := ring.sound.dataSize_lt
    rw [ring.capacity] at small
    have allocated := ring.sound.allocated (by omega)
    obtain ⟨sound, _, contents⟩ := ring.sound.drained_spec allocated fits.2
    refine ⟨⟨sound, ring.capacity⟩, ?_, ?_⟩
    · rw [List.length_take]
      omega
    · have rest : (state.session.recvQ.drained length).contents =
          state.session.recvQ.contents.drop length := contents
      simp only [Streams] at phase ⊢
      simp only [modify, session, CSession.storeRecvQ] at rest ⊢
      rw [phase, parse_frame verdict]
      simp only [session, Parse.after, rest, List.append_assoc, List.singleton_append]

theorem Receiving.statement (receiving : Receiving env state) {pc : ReceivePc}
    (handled : state.receive = .handled thread pc)
    (idle : state.send.threads thread = .idle) (accepted : Bool) :
    Receiving env (state.receiveTurn env thread accepted pc) := by
  obtain ⟨ring, phase⟩ := id receiving
  rw [handled] at phase
  cases pc with
  | moveWritePtr size =>
    obtain ⟨moved, streams⟩ := phase.2.moves phase.1
    simp only [receiveTurn, moved, ne_eq, not_true, if_false]
    exact ⟨ring.moveWritePtr size, streams⟩
  | parse => exact receiving.parse handled accepted
  | deliver bytes =>
    simp only [receiveTurn]
    split
    · exact ⟨ring, phase.2⟩
    · exact ⟨ring, phase.2⟩
  | postRecv =>
    refine ⟨ring, ?_⟩
    simp only [receiveTurn]
    split
    · next valid =>
      rcases phase.2 with waits | ⟨_, invalid | leaving⟩
      · exact ⟨waits, phase.1⟩
      · rw [valid] at invalid
        cases invalid
      · rw [idle] at leaving
        cases leaving
    · next invalid => exact ⟨⟨_, phase.1⟩, thread, .inl (Bool.eq_false_iff.mpr invalid)⟩
  | wsaRecv =>
    simp only [receiveTurn]
    split
    · exact ⟨ring, ⟨_, phase.2⟩, thread, enter_leaves _ thread⟩
    · exact ⟨ring, rfl, rfl, phase.1, phase.2⟩

theorem Receiving.moves (receiving : Receiving env state) (moves : Moves env state next) :
    Receiving env next := by
  cases moves with
  | call thread payload free mode =>
    exact receiving.still ⟨rfl, rfl, rfl, rfl, rfl, rfl, leaves_enter (free_idle free)⟩
  | run thread accepted garbage => exact receiving.still (run_still state thread accepted garbage)
  | sent thread position size bytes free =>
    exact receiving.still ⟨rfl, rfl, rfl, rfl, rfl, rfl, leaves_enter (free_idle free)⟩
  | receive segments bytes posted fits memory => exact receiving.receive posted fits memory
  | worker thread size completed free => exact receiving.dispatch completed
  | statement thread pc accepted handled idle => exact receiving.statement handled idle accepted
  | invalidate => exact receiving.still ⟨rfl, rfl, rfl, rfl, rfl, rfl, fun _ _ => .inl rfl⟩
  | clearSending invalid =>
    exact receiving.still ⟨rfl, rfl, rfl, rfl, rfl, rfl, fun _ leaves => leaves⟩

variable {recvMemory sendMemory : Option (Nat → UInt8)} {sessionId : SessionId} {socket : Socket}
  {acceptThread : Thread}

omit [DecidableEq Thread] in
theorem start_receiving :
    Receiving env (start recvMemory sendMemory sessionId socket acceptThread) := by
  have cleared : (new 65536 recvMemory).clear.Default := (new_default recvMemory).clear
  have ring : (new 65536 recvMemory).clear.clear.Default := cleared.clear
  have empty : (new 65536 recvMemory).clear.clear.contents = [] := cleared.sound.clear_spec.2
  have whole := env.header.holdsSize
  refine ⟨ring, ?_, .inl ?_⟩
  · have same : (start recvMemory sendMemory sessionId socket acceptThread).session.recvQ.contents
        = [] := empty
    simp only [Streams, same]
    rfl
  · have short : 0 < env.header.sizeofMsgHeader := by omega
    have same : (start recvMemory sendMemory sessionId socket acceptThread).session.recvQ.contents
        = [] := empty
    simp only [Waits, same]
    simp [Environment.framer, announce, short]

theorem reachable_receiving (reached : Reachable (step env) Always
    (start recvMemory sendMemory sessionId socket acceptThread) state) : Receiving env state := by
  induction reached with
  | start => exact start_receiving
  | step _ _ taken ih => exact ih.moves (step_moves taken)

/-- Every completion fits, every PostRecv finds room, and what ParsePackets leaves is shorter than a
packet. -/
theorem receive_never_drops (reached : Reachable (step env) Always
      (start recvMemory sendMemory sessionId socket acceptThread) state)
    (accepted : (env.framer.parse state.received).ending ≠ .rejected) :
    (∀ thread size, state.receive = .handled thread (.moveWritePtr size) →
      (state.session.recvQ.moveWritePtr size).2.returned = size) ∧
    (∀ thread, state.receive = .handled thread .postRecv →
      state.session.recvQ.getDataSize < 65535) ∧
    ∀ thread, state.receive = .handled thread .wsaRecv →
      recvBuffers state.session.recvQ ≠ [] ∧
        total (recvBuffers state.session.recvQ) = 65535 - state.session.recvQ.getDataSize := by
  obtain ⟨ring, phase⟩ := reachable_receiving reached
  refine ⟨?_, ?_, ?_⟩
  · intro thread size handled
    rw [handled] at phase
    exact (phase.2.moves phase.1).1
  · intro thread handled
    rw [handled] at phase
    obtain ⟨streams, waits | ⟨rejects, _⟩⟩ := phase
    · rw [← contents_length]
      exact Environment.waits_short waits
    · exfalso
      apply accepted
      rw [streams, parse_reject rejects]
      rfl
  · intro thread handled
    rw [handled] at phase
    refine ⟨phase.1.window ring, ?_⟩
    rw [recvBuffers_total ring.sound ring.narrow, ring.sound.freeSize_eq, ring.capacity]

-- The header of an echo frame of three bytes has arrived.
theorem receive_never_drops_header :
    ∃ state : SessionState (Fin 2), state.receive = .handled 1 .postRecv ∧
      state.received = [1, 0] ∧ state.session.recvQ.getDataSize < 65535 := by
  obtain ⟨state, reached, seen⟩ := Reachable.observe (step echoServer)
    (start (some fun _ => 0) none 1 1 0 : SessionState (Fin 2))
    [.statement true, .statement true, .receive [1, 0], .worker 1, .statement true, .statement true]
    (fun state => state.receive = .handled 1 .postRecv ∧ state.received = [1, 0])
    (by decide +kernel)
  obtain ⟨handled, received⟩ := of_decide_eq_true seen
  have waits : echoServer.framer.classify [1, 0] = .wait := by decide
  refine ⟨state, handled, received, (receive_never_drops reached ?_).2.1 1 handled⟩
  rw [received, parse_wait waits]
  simp

end SessionState

end MiniGames
