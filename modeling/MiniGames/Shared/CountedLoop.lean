import Mathlib.Algebra.Ring.Nat
import Mathlib.Data.BitVec
import Mathlib.Data.List.Range
import Mathlib.Tactic.Common

set_option autoImplicit false

namespace MiniGames.CountedLoop

variable {State : Type*} {width : Nat}

-- `for (counter = 0; counter < bound; ++counter)`, cut off after `turns` tests of the condition.
def loop (bound : Int) (body : State → BitVec width → State) :
    (turns : Nat) → (counter : BitVec width) → (state : State) → Option State
  | 0, _, _ => none
  | turns + 1, counter, state =>
      if counter.toNat < bound then loop bound body turns (counter + 1) (body state counter)
      else some state

def counters (width count : Nat) : List (BitVec width) :=
  (List.range count).map (BitVec.ofNat width)

-- The loop ends, and with the given state.
def Ends (bound : Int) (body : State → BitVec width → State) (state final : State) : Prop :=
  ∃ turns, loop bound body turns 0 state = some final

variable {bound : Int} {body : State → BitVec width → State} {state final : State}

theorem loop_diverges (wide : 2 ^ width ≤ bound) (turns : Nat) (counter : BitVec width) :
    loop bound body turns counter state = none := by
  induction turns generalizing counter state with
  | zero => rfl
  | succ turns ih =>
    have small : (counter.toNat : Int) < 2 ^ width := by exact_mod_cast counter.isLt
    rw [loop, if_pos (Int.lt_of_lt_of_le small wide)]
    exact ih (counter + 1)

theorem loop_counts {count : Nat} (narrow : count < 2 ^ width) {start : Nat} (left : Nat)
    (rest : start + left = count) : loop count body (left + 1) (BitVec.ofNat width start) state =
      some (((List.range' start left).map (BitVec.ofNat width)).foldl body state) := by
  have value (number : Nat) (inside : number ≤ count) :
      (BitVec.ofNat width number).toNat = number := by
    rw [BitVec.toNat_ofNat, Nat.mod_eq_of_lt (Nat.lt_of_le_of_lt inside narrow)]
  induction left generalizing start state with
  | zero =>
    have done : ¬ ((BitVec.ofNat width start).toNat : Int) < count := by
      rw [value start (by omega)]
      omega
    rw [loop, if_neg done]
    rfl
  | succ left ih =>
    have goes : ((BitVec.ofNat width start).toNat : Int) < count := by
      rw [value start (by omega)]
      omega
    have next : BitVec.ofNat width start + 1 = BitVec.ofNat width (start + 1) :=
      (BitVec.ofNat_add start 1).symm
    rw [loop, if_pos goes, next, ih (by omega), List.range'_succ, List.map_cons, List.foldl_cons]

theorem loop_unique {turns more : Nat} {counter : BitVec width} {first second : State}
    (ends : loop bound body turns counter state = some first)
    (again : loop bound body more counter state = some second) : first = second := by
  induction turns generalizing more counter state with
  | zero => cases ends
  | succ turns ih =>
    cases more with
    | zero => cases again
    | succ more =>
      rw [loop] at ends again
      by_cases goes : (counter.toNat : Int) < bound
      · rw [if_pos goes] at ends again
        exact ih ends again
      · rw [if_neg goes] at ends again
        exact Option.some.inj (ends.symm.trans again)

/-- The loop ends if and only if its bound fits into the counter, and it then counts up to it. -/
theorem ends_iff : Ends bound body state final ↔
    bound < 2 ^ width ∧ final = (counters width bound.toNat).foldl body state := by
  have ends (fits : bound < 2 ^ width) : loop bound body (bound.toNat + 1) 0 state =
      some ((counters width bound.toNat).foldl body state) := by
    rcases Int.lt_or_le bound 0 with negative | positive
    · have none : bound.toNat = 0 := Int.toNat_of_nonpos (Int.le_of_lt negative)
      have done : ¬ ((0 : BitVec width).toNat : Int) < bound := by omega
      rw [none, loop, if_neg done]
      rfl
    · have same := Int.toNat_of_nonneg positive
      have narrow : bound.toNat < 2 ^ width := by
        rw [← same] at fits
        exact_mod_cast fits
      have counts : loop bound.toNat body (bound.toNat + 1) (BitVec.ofNat width 0) state =
          some (((List.range' 0 bound.toNat).map (BitVec.ofNat width)).foldl body state) :=
        loop_counts narrow bound.toNat (Nat.zero_add _)
      rw [same] at counts
      rw [counters, List.range_eq_range']
      exact counts
  constructor
  · rintro ⟨turns, ended⟩
    by_cases fits : bound < 2 ^ width
    · exact ⟨fits, loop_unique ended (ends fits)⟩
    · rw [loop_diverges (Int.not_lt.mp fits)] at ended
      cases ended
  · rintro ⟨fits, rfl⟩
    exact ⟨_, ends fits⟩

theorem counters_toNat {count : Nat} (narrow : count ≤ 2 ^ width) :
    (counters width count).map BitVec.toNat = List.range count := by
  rw [counters, List.map_map]
  refine (List.map_congr_left fun number member => ?_).trans (List.map_id _)
  have inside := List.mem_range.mp member
  exact Nat.mod_eq_of_lt (Nat.lt_of_lt_of_le inside narrow)

end MiniGames.CountedLoop
