import Mathlib.Logic.Function.Basic
import Mathlib.Tactic.Common

set_option autoImplicit false

namespace MiniGames.Token

variable {Thread Control : Type*}

inductive Placement (Thread : Type*) where
  | free
  | held (thread : Thread)
  | pending
  deriving DecidableEq

/-- The token is where `placement` says, and nowhere else; `jobs` counts the pending jobs. -/
def Placed (owns : Control → Bool) (control : Thread → Control) (jobs : Nat) :
    Placement Thread → Prop
  | .free => jobs = 0 ∧ ∀ thread, owns (control thread) = false
  | .held thread => jobs = 0 ∧ ∀ other, owns (control other) = true ↔ other = thread
  | .pending => jobs = 1 ∧ ∀ thread, owns (control thread) = false

variable {owns : Control → Bool} {control : Thread → Control} {jobs : Nat}
  {placement : Placement Thread}

theorem Placed.jobs_le_one (placed : Placed owns control jobs placement) : jobs ≤ 1 := by
  cases placement <;> simp [placed.1]

theorem Placed.holder (placed : Placed owns control jobs placement) (thread : Thread)
    (holds : owns (control thread) = true) : placement = .held thread := by
  cases placement with
  | free => simp [placed.2 thread] at holds
  | held other => rw [(placed.2 thread).mp holds]
  | pending => simp [placed.2 thread] at holds

theorem Placed.unowned (placed : Placed owns control jobs placement)
    (none : ∀ thread, owns (control thread) = false) (empty : jobs = 0) : placement = .free := by
  cases placement with
  | free => rfl
  | held thread => exact absurd ((placed.2 thread).mpr rfl) (by simp [none thread])
  | pending => exact absurd (placed.1.symm.trans empty) (by decide)

theorem Placed.busy (placed : Placed owns control jobs placement) (some : 0 < jobs) :
    placement = .pending := by
  cases placement with
  | free => exact absurd placed.1 (Nat.ne_of_gt some)
  | held thread => exact absurd placed.1 (Nat.ne_of_gt some)
  | pending => rfl

variable [DecidableEq Thread] {thread : Thread} {next : Control}

theorem Placed.stay (placed : Placed owns control jobs placement)
    (same : owns next = owns (control thread)) :
    Placed owns (Function.update control thread next) jobs placement := by
  have unchanged : ∀ other, owns (Function.update control thread next other) =
      owns (control other) := by
    intro other
    by_cases moved : other = thread
    · subst moved; simp [same]
    · simp [moved]
  cases placement <;> simpa only [Placed, unchanged] using placed

theorem Placed.acquire (placed : Placed owns control jobs .free) (taken : owns next = true) :
    Placed owns (Function.update control thread next) jobs (.held thread) := by
  refine ⟨placed.1, fun other => ?_⟩
  by_cases moved : other = thread
  · subst moved; simp [taken]
  · simp [moved, placed.2 other]

theorem Placed.release (placed : Placed owns control jobs (.held thread))
    (given : owns next = false) : Placed owns (Function.update control thread next) jobs .free := by
  refine ⟨placed.1, fun other => ?_⟩
  by_cases moved : other = thread
  · subst moved; simp [given]
  · have idle : ¬ owns (control other) = true := fun holds => moved ((placed.2 other).mp holds)
    simp [moved, idle]

theorem Placed.shrink (placed : Placed owns control jobs placement) (thread : Thread)
    (next : Control) (kept : owns next = true → owns (control thread) = true) :
    ∃ placement, Placed owns (Function.update control thread next) jobs placement := by
  cases before : owns (control thread) with
  | false =>
    refine ⟨placement, placed.stay ?_⟩
    rw [before]
    cases after : owns next with
    | false => rfl
    | true => exact absurd (kept after) (by simp [before])
  | true =>
    cases after : owns next with
    | true => exact ⟨placement, placed.stay (after.trans before.symm)⟩
    | false =>
      have held := placed.holder thread before
      subst held
      exact ⟨.free, placed.release after⟩

theorem Placed.launch (placed : Placed owns control jobs (.held thread))
    (given : owns next = false) :
    Placed owns (Function.update control thread next) (jobs + 1) .pending := by
  obtain ⟨empty, none⟩ := placed.release given
  exact ⟨by rw [empty], none⟩

theorem Placed.land (placed : Placed owns control (jobs + 1) placement)
    (taken : owns next = true) :
    Placed owns (Function.update control thread next) jobs (.held thread) := by
  have pending := placed.busy (Nat.succ_pos _)
  subst pending
  have free : Placed owns control jobs .free := ⟨Nat.succ.inj placed.1, placed.2⟩
  exact free.acquire taken

end MiniGames.Token
