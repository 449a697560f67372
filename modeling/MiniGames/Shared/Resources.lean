import Mathlib.Data.List.Count
import Mathlib.Tactic.Common

set_option autoImplicit false

namespace MiniGames

-- They are numbered in the order in which they were acquired.
structure Resources where
  acquired : Nat
  released : List Nat

namespace Resources

def empty : Resources := ⟨0, []⟩

def acquire (resources : Resources) : Resources :=
  { resources with acquired := resources.acquired + 1 }

def release (resources : Resources) (resource : Nat) : Resources :=
  { resources with released := resource :: resources.released }

def Balanced (resources : Resources) : Prop :=
  ∀ resource, resources.released.count resource = if resource < resources.acquired then 1 else 0

def Outstanding (resources : Resources) (resource : Nat) : Prop :=
  resource < resources.acquired ∧ resource ∉ resources.released

def Holds (resources : Resources) (resource : Nat) : Prop :=
  resource < resources.acquired ∧ ∀ other, resources.released.count other =
    if other < resources.acquired ∧ other ≠ resource then 1 else 0

variable {resources : Resources} {resource other : Nat}

theorem balanced_empty : empty.Balanced := by
  intro resource
  simp [empty]

theorem Balanced.acquire (balanced : resources.Balanced) :
    resources.acquire.Holds resources.acquired := by
  refine ⟨Nat.lt_succ_self _, fun other => (balanced other).trans (if_congr ?_ rfl rfl)⟩
  simp only [Resources.acquire]
  omega

theorem Holds.release (held : resources.Holds resource) : (resources.release resource).Balanced := by
  intro other
  have before := held.2 other
  by_cases same : resource = other
  · rw [← same] at before ⊢
    simp [Resources.release, before, held.1]
  · rw [Resources.release, List.count_cons_of_ne same, before]
    exact if_congr ⟨And.left, fun older => ⟨older, Ne.symm same⟩⟩ rfl rfl

theorem Holds.outstanding (held : resources.Holds resource) : resources.Outstanding resource := by
  refine ⟨held.1, List.count_eq_zero.mp ?_⟩
  rw [held.2 resource, if_neg fun kept => kept.2 rfl]

theorem Outstanding.acquire (outstanding : resources.Outstanding resource) :
    resources.acquire.Outstanding resource :=
  ⟨Nat.lt_succ_of_lt outstanding.1, outstanding.2⟩

theorem Outstanding.release (outstanding : resources.Outstanding resource)
    (different : other ≠ resource) : (resources.release other).Outstanding resource := by
  refine ⟨outstanding.1, fun member => ?_⟩
  rcases List.mem_cons.mp member with same | member
  · exact different same.symm
  · exact outstanding.2 member

theorem Outstanding.not_once (outstanding : resources.Outstanding resource) :
    resources.released.count resource ≠ 1 := by
  rw [List.count_eq_zero.mpr outstanding.2]
  decide

theorem Outstanding.older (outstanding : resources.Outstanding resource) :
    resources.acquired ≠ resource := (Nat.ne_of_lt outstanding.1).symm

end Resources

end MiniGames
