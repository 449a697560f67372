import Mathlib.Algebra.GroupWithZero.Nat
import Mathlib.Algebra.BigOperators.Group.Finset.Basic
import Mathlib.Algebra.Order.BigOperators.Group.Finset
import MiniGames.Shared.Runs

set_option autoImplicit false

namespace MiniGames.Runs

section Potentials

variable {State Action : Type*} {step : State → Action → Option State} {state final : State}
  {actions : List Action}

/-- The steps of a run cost no more than what was stored before it, what its actions bring and what
the state gains in it. -/
theorem execute_gains {holds : State → Prop} (potential gain : State → Nat)
    (cost charge : Action → Nat)
    (preserved : ∀ state action next, holds state → step state action = some next → holds next)
    (paid : ∀ state action next, holds state → step state action = some next →
      cost action + potential next + gain state ≤ potential state + charge action + gain next)
    (initial : holds state) (run : execute step state actions = some final) :
    (actions.map cost).sum + potential final + gain state ≤
      potential state + (actions.map charge).sum + gain final := by
  induction actions generalizing state with
  | nil =>
    cases run
    simp
  | cons action rest ih =>
    obtain ⟨next, taken, later⟩ := Option.bind_eq_some_iff.mp run
    have first := paid _ _ _ initial taken
    have others := ih (preserved _ _ _ initial taken) later
    simp only [List.map_cons, List.sum_cons]
    omega

theorem execute_charged {holds : State → Prop} (potential : State → Nat)
    (cost charge : Action → Nat)
    (preserved : ∀ state action next, holds state → step state action = some next → holds next)
    (paid : ∀ state action next, holds state → step state action = some next →
      cost action + potential next ≤ potential state + charge action)
    (initial : holds state) (run : execute step state actions = some final) :
    (actions.map cost).sum + potential final ≤ potential state + (actions.map charge).sum :=
  execute_gains potential (fun _ => 0) cost charge preserved paid initial run

theorem sum_toNat {Item : Type*} (counted : Item → Bool) (items : List Item) :
    (items.map fun item => (counted item).toNat).sum = items.countP counted := by
  induction items with
  | nil => rfl
  | cons item rest ih =>
    rw [List.map_cons, List.sum_cons, List.countP_cons, ih, Nat.add_comm]
    cases counted item <;> rfl

end Potentials

section Sums

open Finset

variable {Key Value : Type*} [Fintype Key] [DecidableEq Key]

theorem sum_update (weigh : Value → Nat) (values : Key → Value) (key : Key) (value : Value) :
    ∑ other, weigh (Function.update values key value other) + weigh (values key) =
      ∑ other, weigh (values other) + weigh value := by
  have split (chosen : Key → Value) :
      ∑ other, weigh (chosen other) =
        weigh (chosen key) + ∑ other ∈ univ.erase key, weigh (chosen other) :=
    (add_sum_erase univ (fun other => weigh (chosen other)) (mem_univ key)).symm
  have same : ∑ other ∈ univ.erase key, weigh (Function.update values key value other) =
      ∑ other ∈ univ.erase key, weigh (values other) :=
    sum_congr rfl fun other member => by
      rw [Function.update_of_ne (ne_of_mem_erase member)]
  rw [split values, split (Function.update values key value), same, Function.update_self]
  omega

end Sums

end MiniGames.Runs
