import MiniGames.Network.SendIntegrity
import Mathlib.Data.Fintype.Basic

set_option autoImplicit false

namespace MiniGames

open Circular CRingBufferT Runs Token

def SendPc.wakes : SendPc → Bool
  | .postValid | .exchange | .recheck | .disconnect => true
  | _ => false

namespace SendState

variable {Thread : Type} [DecidableEq Thread]

def Awake (state : SendState Thread) : Prop :=
  state.session.sendQ.getDataSize = 0 ∨ state.session.sending = true ∨
    ∃ thread, (state.threads thread).wakes = true

/-- An early return of PostSend clears `_sending` over an empty queue, or while another thread is
still on its way to the flag. -/
def Harmless (state : SendState Thread) : SendAction Thread → Prop
  | .run thread _ _ => state.threads thread = .releaseEarly →
      state.session.sendQ.getDataSize = 0 ∨
        ∃ other, other ≠ thread ∧ (state.threads other).wakes = true
  | _ => True

instance [Fintype Thread] (state : SendState Thread) (action : SendAction Thread) :
    Decidable (Harmless state action) :=
  match action with
  | .run _ _ _ => inferInstanceAs (Decidable (_ → _ ∨ _))
  | .call _ _ | .complete _ _ _ | .invalidate => inferInstanceAs (Decidable True)

variable {state : SendState Thread} {placement : Placement Thread} {thread : Thread}

theorem Awake.enter (awake : Awake state) {pc : SendPc}
    (idle : (state.threads thread).wakes = false) : Awake (state.enter thread pc) := by
  rcases awake with empty | sending | ⟨other, wakes⟩
  · exact .inl empty
  · exact .inr (.inl sending)
  · have apart : other ≠ thread := by
      rintro rfl
      simp [idle] at wakes
    exact .inr (.inr ⟨other, by simpa [SendState.enter, apart] using wakes⟩)

theorem awake_of_next {accepted : Bool} {garbage : Nat}
    (wakes : ((state.threads thread).turn state.session accepted garbage).next.wakes = true) :
    Awake (state.run thread accepted garbage) :=
  .inr (.inr ⟨thread, by simpa [run] using wakes⟩)

theorem Awake.run (awake : Awake state) (intact : Intact state placement) {accepted : Bool}
    {garbage : Nat} (valid : state.session.valid = true)
    (harmless : Harmless state (.run thread accepted garbage))
    (kept : (state.run thread accepted garbage).session.valid = true) :
    Awake (state.run thread accepted garbage) := by
  have still {pc : SendPc} (at_pc : state.threads thread = pc) (asleep : pc.wakes = false)
      (same : (pc.turn state.session accepted garbage).session = state.session) :
      Awake (state.run thread accepted garbage) := by
    have entered : Awake (state.enter thread (pc.turn state.session accepted garbage).next) :=
      awake.enter (by rw [at_pc]; exact asleep)
    simpa [SendState.run, SendState.enter, Awake, at_pc, same] using entered
  -- A turn of the holder that does not clear the flag leaves it set.
  have holding {pc : SendPc} (at_pc : state.threads thread = pc) (owned : pc.owns = true)
      (same : (pc.turn state.session accepted garbage).session.sending = state.session.sending) :
      Awake (state.run thread accepted garbage) := by
    have held := intact.placed.holder thread (by rw [at_pc]; exact owned)
    refine .inr (.inl ?_)
    simp only [SendState.run, at_pc, same]
    exact intact.flag.mpr (by simp [held])
  cases at_pc : state.threads thread with
  | idle => exact still at_pc rfl rfl
  | checkValid payload => exact still at_pc rfl rfl
  | enqueue payload =>
    apply awake_of_next
    simp only [at_pc, SendPc.turn]
    split <;> rfl
  | postValid =>
    apply awake_of_next
    simp [at_pc, SendPc.turn, valid, SendPc.wakes]
  | exchange =>
    exact .inr (.inl (by simp [SendState.run, at_pc, SendPc.turn, CSession.storeSending]))
  | getSendInfo => exact holding at_pc rfl rfl
  | releaseEarly =>
    rcases harmless at_pc with empty | ⟨other, apart, wakes⟩
    · exact .inl (by simpa [SendState.run, at_pc, SendPc.turn, CSession.storeSending] using empty)
    · exact .inr (.inr ⟨other, by simpa [SendState.run, apart] using wakes⟩)
  | wsaSend info =>
    refine holding at_pc rfl ?_
    simp only [SendPc.turn]
    split
    · rfl
    · split <;> rfl
  | sentValid size => exact holding at_pc rfl rfl
  | consume size => exact holding at_pc rfl rfl
  | getRest => exact holding at_pc rfl rfl
  | wsaSendRest info =>
    refine holding at_pc rfl ?_
    simp only [SendPc.turn]
    split
    · rfl
    · split <;> rfl
  | releaseSent =>
    apply awake_of_next
    simp [at_pc, SendPc.turn, SendPc.wakes]
  | recheck =>
    by_cases empty : state.session.sendQ.getDataSize = 0
    · exact .inl (by simpa [SendState.run, at_pc, SendPc.turn] using empty)
    · apply awake_of_next
      simp [at_pc, SendPc.turn, SendPc.wakes, Nat.pos_of_ne_zero empty]
  | releaseFailed =>
    apply awake_of_next
    simp [at_pc, SendPc.turn, SendPc.wakes]
  | disconnect => simp [SendState.run, at_pc, SendPc.turn, CSession.storeValid] at kept

theorem awake_step (intact : Intact state placement) (awake : Awake state)
    {action : SendAction Thread} (harmless : Harmless state action) {next : SendState Thread}
    (taken : state.step action = some next) (kept : next.session.valid = true) : Awake next := by
  simp only [step, Option.bind_eq_bind, Option.bind_eq_some_iff] at taken
  obtain ⟨_, valid, taken⟩ := taken
  replace valid : state.session.valid = true := by simpa [guard] using valid
  have asleep {thread : Thread} (idle : state.threads thread = .idle) :
      (state.threads thread).wakes = false := by
    rw [idle]; rfl
  cases action with
  | call thread payload =>
    obtain ⟨_, idle, taken⟩ := Option.bind_eq_some_iff.mp taken
    cases taken
    exact awake.enter (asleep (by simpa [guard] using idle))
  | run thread accepted garbage =>
    cases taken
    exact awake.run intact valid harmless kept
  | complete thread position size =>
    obtain ⟨_, idle, taken⟩ := Option.bind_eq_some_iff.mp taken
    obtain ⟨request, _, taken⟩ := Option.bind_eq_some_iff.mp taken
    obtain ⟨_, _, taken⟩ := Option.bind_eq_some_iff.mp taken
    cases taken
    exact awake.enter (asleep (by simpa [guard] using idle))
  | invalidate =>
    cases taken
    simp [CSession.storeValid] at kept

def Quiescent (state : SendState Thread) : Prop :=
  (∀ thread, state.threads thread = .idle) ∧ state.outstanding = []

variable {recvMemory sendMemory : Option (Nat → UInt8)} {sessionId : SessionId} {socket : Socket}

theorem reachable_awake
    (reached : Reachable step Harmless (start recvMemory sendMemory sessionId socket) state) :
    state.session.valid = true → Awake state := by
  induction reached with
  | start =>
    intro _
    have empty : (start recvMemory sendMemory sessionId socket :
        SendState Thread).session.sendQ.contents = [] := start_intact.ledger
    exact .inl (by rw [← contents_length, empty]; rfl)
  | @step before after action reached harmless taken ih =>
    intro kept
    obtain ⟨_, intact⟩ := reachable_intact (reached.weaken fun _ _ _ => trivial)
    have valid : before.session.valid = true := by
      by_contra invalid
      simp [step, invalid, guard] at taken
    exact awake_step intact (ih valid) harmless taken kept

/-- While no early return of PostSend is harmful, no run strands bytes in the queue. -/
theorem quiescent_queue_empty
    (reached : Reachable step Harmless (start recvMemory sendMemory sessionId socket) state)
    (valid : state.session.valid = true) (quiescent : Quiescent state) :
    state.session.sendQ.contents = [] := by
  obtain ⟨placement, intact⟩ := reachable_intact (reached.weaken fun _ _ _ => trivial)
  rcases reachable_awake reached valid with empty | sending | ⟨thread, wakes⟩
  · rwa [← List.length_eq_zero_iff, contents_length]
  · have free := intact.placed.unowned (fun thread => by rw [quiescent.1]; rfl)
      (by rw [quiescent.2]; rfl)
    exact absurd free (intact.flag.mp sending)
  · rw [quiescent.1] at wakes
    cases wakes

/-- An early return of the only active thread strands what is in the queue unless it is harmless. -/
theorem harmful_release_strands {accepted : Bool} {garbage : Nat} (intact : Intact state placement)
    (at_pc : state.threads thread = .releaseEarly)
    (alone : ∀ other, other ≠ thread → state.threads other = .idle) :
    Quiescent (state.run thread accepted garbage) ∧
      ((state.run thread accepted garbage).session.sendQ.contents = [] ↔
        Harmless state (.run thread accepted garbage)) := by
  have held := intact.placed.holder thread (by rw [at_pc]; rfl)
  subst held
  refine ⟨⟨fun other => ?_, ?_⟩, ?_⟩
  · by_cases same : other = thread
    · subst same
      simp [run, at_pc, SendPc.turn]
    · simpa [run, same] using alone other same
  · simp [run, at_pc, SendPc.turn, List.length_eq_zero_iff.mp intact.placed.1]
  · have empty : state.session.sendQ.contents = [] ↔ state.session.sendQ.getDataSize = 0 := by
      rw [← List.length_eq_zero_iff, contents_length]
    have asleep (other : Thread) (apart : other ≠ thread) :
        (state.threads other).wakes = false := by
      rw [alone other apart]; rfl
    simp only [run, at_pc, SendPc.turn, CSession.storeSending, empty, Harmless, forall_const]
    refine ⟨.inl, ?_⟩
    rintro (none | ⟨other, apart, wakes⟩)
    · exact none
    · simp [asleep other apart] at wakes

-- Thread 0 wins the flag once thread 3 has sent its bytes; thread 2 enqueues and leaves the sending
-- to it, after thread 0 has seen the empty queue.
theorem send_queue_strands :
    ¬ ∀ state : SendState (Fin 4),
      Reachable step Always (start none (some fun _ => 0) 1 1) state →
      state.session.valid = true → Quiescent state → state.session.sendQ.contents = [] := by
  intro always
  obtain ⟨state, reached, seen⟩ := Reachable.observe step
    (start none (some fun _ => 0) 1 1 : SendState (Fin 4))
    (.call 0 (.ofBytes [1]) :: List.replicate 3 (.run 0 true 0) ++
      .call 1 (.ofBytes [2]) :: List.replicate 6 (.run 1 true 0) ++
      .complete 3 0 2 :: List.replicate 5 (.run 3 true 0) ++
      List.replicate 2 (.run 0 true 0) ++
      .call 2 (.ofBytes [3]) :: List.replicate 4 (.run 2 true 0) ++
      [.run 0 true 0])
    (fun state => state.session.valid = true ∧ (∀ thread, state.threads thread = .idle) ∧
      state.outstanding.length = 0 ∧ state.session.sendQ.contents = [3]) (by decide +kernel)
  obtain ⟨valid, idle, none, stranded⟩ := of_decide_eq_true seen
  have empty := always state reached valid ⟨idle, List.length_eq_zero_iff.mp none⟩
  rw [stranded] at empty
  cases empty

theorem quiescent_queue_empty_two_threads :
    ∃ state : SendState (Fin 2), state.enqueued = [[1, 2], [3]] ∧ state.transmitted = [1, 2, 3] ∧
      Quiescent state ∧ state.session.sendQ.contents = [] := by
  obtain ⟨state, reached, seen⟩ := Reachable.observe (restrict step Harmless)
    (start none (some fun _ => 0) 1 1 : SendState (Fin 2))
    (.call 0 (.ofBytes [1, 2]) :: List.replicate 6 (.run 0 true 0) ++
      .call 1 (.ofBytes [3]) :: List.replicate 4 (.run 1 true 0) ++
      .complete 1 0 2 :: List.replicate 4 (.run 1 true 0) ++
      .complete 0 0 1 :: List.replicate 5 (.run 0 true 0))
    (fun state => state.session.valid = true ∧ state.enqueued = [[1, 2], [3]] ∧
      state.transmitted = [1, 2, 3] ∧ (∀ thread, state.threads thread = .idle) ∧
      state.outstanding.length = 0) (by decide +kernel)
  obtain ⟨valid, enqueued, transmitted, idle, none⟩ := of_decide_eq_true seen
  have quiescent : Quiescent state := ⟨idle, List.length_eq_zero_iff.mp none⟩
  exact ⟨state, enqueued, transmitted, quiescent,
    quiescent_queue_empty reached.unrestrict valid quiescent⟩

end SendState

end MiniGames
