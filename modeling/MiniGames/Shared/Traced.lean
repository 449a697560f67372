import MiniGames.Shared.Circular

set_option autoImplicit false

namespace MiniGames

open Circular

structure Traced (α : Type) where
  value : α
  reads : List Segment
  deriving DecidableEq

namespace Traced

variable {α β Item Cell : Type} {limit : Nat}

instance : Monad Traced where
  pure value := ⟨value, []⟩
  bind first next := ⟨(next first.value).value, first.reads ++ (next first.value).reads⟩

@[simp] theorem pure_value (value : α) : (pure value : Traced α).value = value := rfl

@[simp] theorem pure_reads (value : α) : (pure value : Traced α).reads = [] := rfl

@[simp] theorem bind_value (first : Traced α) (next : α → Traced β) :
    (first >>= next).value = (next first.value).value := rfl

@[simp] theorem bind_reads (first : Traced α) (next : α → Traced β) :
    (first >>= next).reads = first.reads ++ (next first.value).reads := rfl

def load (memory : List Cell) (offset width : Nat) : Traced (List Cell) :=
  ⟨(memory.drop offset).take width, [⟨offset, width⟩]⟩

@[simp] theorem load_value (memory : List Cell) (offset width : Nat) :
    (load memory offset width).value = (memory.drop offset).take width := rfl

-- The cell that ends the scan is read too.
def scan (goes : Cell → Bool) (memory : List Cell) (offset : Nat) : Traced (List Cell) :=
  let found := (memory.drop offset).takeWhile goes
  ⟨found, [⟨offset, found.length + 1⟩]⟩

def forEach (body : Item → Traced α) : List Item → Traced (List α)
  | [] => pure []
  | item :: rest => do
      let first ← body item
      let others ← forEach body rest
      pure (first :: others)

@[simp] theorem forEach_value (body : Item → Traced α) (items : List Item) :
    (forEach body items).value = items.map fun item => (body item).value := by
  induction items with
  | nil => rfl
  | cons item rest ih => simp [forEach, ih]

def Within (computation : Traced α) (limit : Nat) : Prop :=
  ∀ segment ∈ computation.reads, segment.offset + segment.length ≤ limit

instance (computation : Traced α) (limit : Nat) : Decidable (computation.Within limit) :=
  inferInstanceAs (Decidable (∀ segment ∈ computation.reads, _))

@[simp] theorem within_pure (value : α) : (pure value : Traced α).Within limit := by
  simp [Within]

@[simp] theorem within_bind {first : Traced α} {next : α → Traced β} :
    (first >>= next).Within limit ↔ first.Within limit ∧ (next first.value).Within limit := by
  simp [Within, or_imp, forall_and]

@[simp] theorem within_load {memory : List Cell} {offset width : Nat} :
    (load memory offset width).Within limit ↔ offset + width ≤ limit := by
  simp [Within, load]

@[simp] theorem within_forEach {body : Item → Traced α} {items : List Item} :
    (forEach body items).Within limit ↔ ∀ item ∈ items, (body item).Within limit := by
  induction items with
  | nil => simp [forEach]
  | cons item rest ih => simp [forEach, ih]

theorem takeWhile_lt_iff {goes : Cell → Bool} {cells : List Cell} (bound : limit ≤ cells.length) :
    (cells.takeWhile goes).length < limit ↔ ∃ cell ∈ cells.take limit, goes cell = false := by
  induction cells generalizing limit with
  | nil =>
    have none : limit = 0 := Nat.le_zero.mp bound
    simp [none]
  | cons cell rest ih =>
    cases limit with
    | zero => simp
    | succ limit =>
      have bound : limit ≤ rest.length := Nat.le_of_succ_le_succ bound
      cases ends : goes cell with
      | true => simp [ends, ih bound]
      | false => simp [ends]

theorem within_scan {goes : Cell → Bool} {memory : List Cell} {offset : Nat}
    (inside : offset ≤ limit) (bound : limit ≤ memory.length) :
    (scan goes memory offset).Within limit ↔
      ∃ cell ∈ (memory.take limit).drop offset, goes cell = false := by
  have room : limit - offset ≤ (memory.drop offset).length := by
    rw [List.length_drop]
    omega
  rw [List.drop_take, ← takeWhile_lt_iff room]
  simp only [Within, scan, List.forall_mem_singleton]
  omega

end Traced

end MiniGames
