import Mathlib.Algebra.Ring.Nat
import Mathlib.Tactic.Common

set_option autoImplicit false

namespace MiniGames

-- The two copies of Protocol.h disagree on MsgHeader, so its packed size is a parameter.
structure HeaderLayout where
  sizeofMsgHeader : Nat
  holdsSize : 2 ≤ sizeofMsgHeader
  small : sizeofMsgHeader < 2 ^ 16

-- The server's copy has `type` commented out.
def sizeOnlyHeader : HeaderLayout := ⟨2, by decide, by decide⟩

-- The client's copy, and the one that the server's handlers read.
def typedHeader : HeaderLayout := ⟨4, by decide, by decide⟩

/-- `MsgHeader::size`, the little-endian first two bytes. -/
def headerSize (bytes : List UInt8) : Nat :=
  (bytes.getD 0 0).toNat + 256 * (bytes.getD 1 0).toNat

theorem headerSize_lt (bytes : List UInt8) : headerSize bytes < 2 ^ 16 := by
  have := (bytes.getD 0 0).toNat_lt
  have := (bytes.getD 1 0).toNat_lt
  simp only [headerSize]
  omega

theorem headerSize_append {bytes : List UInt8} (more : List UInt8) (whole : 2 ≤ bytes.length) :
    headerSize (bytes ++ more) = headerSize bytes := by
  simp [headerSize, List.getD_eq_getElem?_getD, List.getElem?_append, show 0 < bytes.length by omega,
    show 1 < bytes.length by omega]

theorem headerSize_take {bytes : List UInt8} {count : Nat} (whole : 2 ≤ count)  :
    headerSize (bytes.take count) = headerSize bytes := by
  simp [headerSize, List.getD_eq_getElem?_getD, show 0 < count by omega,
    show 1 < count by omega]

end MiniGames
