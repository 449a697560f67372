import Mathlib.Algebra.Ring.Nat
import Mathlib.Tactic.Common

set_option autoImplicit false

namespace MiniGames.LittleEndian

def split : Nat → Nat → List UInt8
  | 0, _ => []
  | width + 1, value => UInt8.ofNat value :: split width (value / 256)

def combine : List UInt8 → Nat
  | [] => 0
  | byte :: rest => byte.toNat + 256 * combine rest

-- The field of `width` bytes at an offset.
def field (bytes : List UInt8) (offset width : Nat) : Nat :=
  combine ((bytes.drop offset).take width)

@[simp] theorem split_length (width value : Nat) : (split width value).length = width := by
  induction width generalizing value with
  | zero => rfl
  | succ width ih => simp [split, ih]

@[simp] theorem combine_split (width value : Nat) :
    combine (split width value) = value % 256 ^ width := by
  induction width generalizing value with
  | zero => simp [split, combine, Nat.mod_one]
  | succ width ih =>
    have low : (UInt8.ofNat value).toNat = value % 256 := UInt8.toNat_ofNat'
    rw [split, combine, ih, low, Nat.pow_succ', Nat.mod_mul]

theorem field_split {before : List UInt8} {offset : Nat} (at_offset : before.length = offset)
    (width value : Nat) (rest : List UInt8) :
    field (before ++ (split width value ++ rest)) offset width = value % 256 ^ width := by
  have kept : (split width value ++ rest).take width = split width value :=
    List.take_left' (split_length width value)
  rw [field, List.drop_left' at_offset, kept, combine_split]

theorem field_append {bytes : List UInt8} {offset width : Nat} (inside : offset + width ≤ bytes.length)
    (rest : List UInt8) : field (bytes ++ rest) offset width = field bytes offset width := by
  have room : width ≤ (bytes.drop offset).length := by
    rw [List.length_drop]
    omega
  rw [field, List.drop_append_of_le_length (by omega), List.take_append_of_le_length room, field]

end MiniGames.LittleEndian
