import Mathlib.Algebra.Ring.Nat
import Mathlib.Tactic.Common

set_option autoImplicit false

namespace MiniGames.Packed

variable {Cell : Type*} {memory value : List Cell} {members : List (List Cell)} {offset : Nat}

def store (memory : List Cell) (offset : Nat) (value : List Cell) : List Cell :=
  memory.take offset ++ (value ++ memory.drop (offset + value.length))

-- The stores of the members, in their order and from an offset on.
def storeAll : List (List Cell) → Nat → List Cell → List Cell
  | [], _, memory => memory
  | value :: rest, offset, memory => storeAll rest (offset + value.length) (store memory offset value)

theorem store_length (fits : offset + value.length ≤ memory.length) :
    (store memory offset value).length = memory.length := by
  simp only [store, List.length_append, List.length_take, List.length_drop]
  omega

theorem store_take (fits : offset + value.length ≤ memory.length) :
    (store memory offset value).take (offset + value.length) = memory.take offset ++ value := by
  rw [store, ← List.append_assoc]
  apply List.take_left'
  rw [List.length_append, List.length_take]
  omega

theorem store_drop (fits : offset + value.length ≤ memory.length) {later : Nat}
    (after : offset + value.length ≤ later) :
    (store memory offset value).drop later = memory.drop later := by
  have before : (memory.take offset ++ value).length = offset + value.length := by
    rw [List.length_append, List.length_take]
    omega
  rw [store, ← List.append_assoc, List.drop_append, before,
    List.drop_of_length_le (Nat.le_trans (Nat.le_of_eq before) after), List.nil_append,
    List.drop_drop]
  congr 1
  omega

theorem storeAll_eq (fits : offset + members.flatten.length ≤ memory.length) :
    storeAll members offset memory =
      memory.take offset ++ (members.flatten ++ memory.drop (offset + members.flatten.length)) := by
  induction members generalizing offset memory with
  | nil => simp [storeAll]
  | cons value rest ih =>
    rw [List.flatten_cons, List.length_append] at fits
    have first : offset + value.length ≤ memory.length := by omega
    have later : offset + value.length + rest.flatten.length ≤
        (store memory offset value).length := by
      rw [store_length first]
      omega
    rw [storeAll, ih later, store_take first, store_drop first (Nat.le_add_right ..),
      List.flatten_cons, List.length_append, Nat.add_assoc]
    simp only [List.append_assoc]

theorem storeAll_whole (whole : memory.length = members.flatten.length) :
    storeAll members 0 memory = members.flatten := by
  rw [storeAll_eq (by omega), List.take_zero, List.nil_append, Nat.zero_add, ← whole,
    List.drop_length, List.append_nil]

end MiniGames.Packed
