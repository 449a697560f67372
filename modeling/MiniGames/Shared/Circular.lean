import Mathlib.Algebra.Ring.Nat
import Mathlib.Data.List.Range
import Mathlib.Tactic.Common

set_option autoImplicit false

namespace MiniGames.Circular

variable {α : Type*}

-- The cell `k` places after `start`; a comparison instead of `%` keeps the proofs linear.
def wrap (capacity start k : Nat) : Nat :=
  if start + k < capacity then start + k else start + k - capacity

theorem wrap_lt {capacity start k : Nat} (inside : start < capacity) (bound : k ≤ capacity) :
    wrap capacity start k < capacity := by
  unfold wrap; split <;> omega

theorem wrap_add {capacity start j k : Nat} (inside : start < capacity) (bound : j + k ≤ capacity) :
    wrap capacity (wrap capacity start j) k = wrap capacity start (j + k) := by
  unfold wrap; split <;> split <;> split <;> omega

theorem wrap_injective {capacity start j k : Nat} (left : j < capacity) (right : k < capacity)
    (same : wrap capacity start j = wrap capacity start k) : j = k := by
  unfold wrap at same; split at same <;> split at same <;> omega

theorem add_mod_eq_wrap {capacity start k : Nat} (inside : start < capacity) (bound : k ≤ capacity) :
    (start + k) % capacity = wrap capacity start k := by
  unfold wrap
  split
  next within => exact Nat.mod_eq_of_lt within
  next beyond =>
    rw [Nat.mod_eq_sub_mod (by omega), Nat.mod_eq_of_lt (by omega)]

def window (memory : Nat → α) (capacity start length : Nat) : List α :=
  (List.range length).map fun k => memory (wrap capacity start k)

@[simp] theorem window_length (memory : Nat → α) (capacity start length : Nat) :
    (window memory capacity start length).length = length := by
  simp [window]

@[simp] theorem window_zero (memory : Nat → α) (capacity start : Nat) :
    window memory capacity start 0 = [] := rfl

theorem window_getElem (memory : Nat → α) (capacity start length k : Nat)
    (bound : k < (window memory capacity start length).length) :
    (window memory capacity start length)[k] = memory (wrap capacity start k) := by
  simp [window]

theorem window_congr {memory memory' : Nat → α} {capacity start length : Nat}
    (same : ∀ k < length, memory (wrap capacity start k) = memory' (wrap capacity start k)) :
    window memory capacity start length = window memory' capacity start length := by
  apply List.map_congr_left
  intro k member
  exact same k (List.mem_range.mp member)

theorem window_append (memory : Nat → α) {capacity start : Nat} (first second : Nat)
    (inside : start < capacity) (bound : first + second ≤ capacity) :
    window memory capacity start (first + second) =
      window memory capacity start first ++
        window memory capacity (wrap capacity start first) second := by
  simp only [window, List.range_add, List.map_append, List.map_map]
  congr 1
  apply List.map_congr_left
  intro k member
  have := List.mem_range.mp member
  simp only [Function.comp_apply]
  rw [wrap_add inside (by omega)]

theorem window_take (memory : Nat → α) (capacity start : Nat) {length count : Nat}
    (bound : count ≤ length) :
    (window memory capacity start length).take count = window memory capacity start count := by
  simp [window, ← List.map_take, List.take_range, Nat.min_eq_left bound]

theorem window_drop (memory : Nat → α) {capacity start length count : Nat}
    (inside : start < capacity) (fits : length ≤ capacity) (bound : count ≤ length) :
    (window memory capacity start length).drop count =
      window memory capacity (wrap capacity start count) (length - count) := by
  have split := window_append memory count (length - count) inside (by omega)
  rw [Nat.add_sub_cancel' bound] at split
  rw [split, List.drop_left' (by simp)]

-- A contiguous piece of memory, as a copy or a scatter/gather descriptor names it.
structure Segment where
  offset : Nat
  length : Nat
  deriving DecidableEq, Repr

def Segment.covers (segment : Segment) (cell : Nat) : Prop :=
  segment.offset ≤ cell ∧ cell < segment.offset + segment.length

instance (segment : Segment) (cell : Nat) : Decidable (segment.covers cell) :=
  inferInstanceAs (Decidable (_ ∧ _))

def total (segments : List Segment) : Nat := (segments.map Segment.length).sum

def read (memory : Nat → α) (segment : Segment) : List α :=
  (List.range segment.length).map fun k => memory (segment.offset + k)

def gather (memory : Nat → α) (segments : List Segment) : List α :=
  segments.flatMap (read memory)

def write (memory : Nat → α) (offset : Nat) (bytes : List α) : Nat → α := fun cell =>
  if offset ≤ cell then (bytes[cell - offset]?).getD (memory cell) else memory cell

def scatter (memory : Nat → α) : List Segment → List α → Nat → α
  | [], _ => memory
  | segment :: rest, bytes =>
      scatter (write memory segment.offset (bytes.take segment.length)) rest
        (bytes.drop segment.length)

theorem scatter_nil (memory : Nat → α) (segments : List Segment) :
    scatter memory segments [] = memory := by
  induction segments generalizing memory with
  | nil => rfl
  | cons segment rest ih =>
    have same : write memory segment.offset [] = memory := by
      funext cell
      simp [write]
    simp only [scatter, List.take_nil, List.drop_nil, same, ih]

def split (capacity start length : Nat) : List Segment :=
  if length ≤ capacity - start then [⟨start, length⟩]
  else [⟨start, capacity - start⟩, ⟨0, length - (capacity - start)⟩]

theorem total_split (capacity start length : Nat) : total (split capacity start length) = length := by
  unfold split total; split <;> simp; omega

theorem split_inside {capacity start length : Nat} (inside : start < capacity)
    (fits : length ≤ capacity) (segment : Segment) (member : segment ∈ split capacity start length) :
    segment.offset + segment.length ≤ capacity := by
  unfold split at member
  split at member <;> simp only [List.mem_cons, List.not_mem_nil, or_false] at member
  · subst member; simp only; omega
  · rcases member with rfl | rfl <;> simp only <;> omega

theorem split_length (capacity start length : Nat) : (split capacity start length).length ≤ 2 := by
  unfold split
  split <;> simp

theorem split_disjoint {capacity start length : Nat} (fits : length ≤ capacity) :
    (split capacity start length).Pairwise fun first second =>
      ∀ cell, first.covers cell → ¬ second.covers cell := by
  unfold split
  split
  · simp
  · simp only [List.pairwise_cons, List.mem_singleton, forall_eq, Segment.covers]
    refine ⟨?_, by simp⟩
    intro cell first second
    omega

theorem split_head {capacity start length : Nat} (inside : start < capacity) (some : 0 < length) :
    ∃ first rest, split capacity start length = first :: rest ∧ 0 < first.length := by
  unfold split
  split
  · exact ⟨_, _, rfl, some⟩
  · exact ⟨_, _, rfl, Nat.sub_pos_of_lt inside⟩

theorem split_covers {capacity start length : Nat} (inside : start < capacity)
    (fits : length ≤ capacity) (cell : Nat) :
    (∃ segment ∈ split capacity start length, segment.covers cell) ↔
      ∃ k < length, wrap capacity start k = cell := by
  have distance (k : Nat) (bound : k < length) : wrap capacity start k < capacity :=
    wrap_lt inside (by omega)
  constructor
  · rintro ⟨segment, member, low, high⟩
    unfold split at member
    split at member <;> simp only [List.mem_cons, List.not_mem_nil, or_false] at member
    · subst member
      exact ⟨cell - start, by simp only at *; omega, by unfold wrap; simp only at *; split <;> omega⟩
    · rcases member with rfl | rfl <;> simp only at low high
      · exact ⟨cell - start, by omega, by unfold wrap; split <;> omega⟩
      · exact ⟨cell + (capacity - start), by omega, by unfold wrap; split <;> omega⟩
  · rintro ⟨k, bound, rfl⟩
    unfold split wrap Segment.covers
    split
    · exact ⟨_, List.mem_cons_self, by simp only; split <;> omega⟩
    · by_cases direct : start + k < capacity
      · exact ⟨_, List.mem_cons_self, by simp only [direct, if_true]; omega⟩
      · exact ⟨_, List.mem_cons_of_mem _ List.mem_cons_self, by simp only [direct, if_false]; omega⟩

theorem gather_split (memory : Nat → α) {capacity start length : Nat} (inside : start < capacity)
    (fits : length ≤ capacity) :
    gather memory (split capacity start length) = window memory capacity start length := by
  have straight (count : Nat) (bound : count ≤ capacity - start) :
      read memory ⟨start, count⟩ = window memory capacity start count := by
    apply List.map_congr_left
    intro k member
    have low : k < count := List.mem_range.mp member
    have within : start + k < capacity := by omega
    simp [wrap, within]
  unfold split gather
  split
  next direct => simpa using straight length direct
  next wraps =>
    have parts := window_append memory (capacity - start) (length - (capacity - start)) inside
      (by omega)
    rw [show capacity - start + (length - (capacity - start)) = length by omega] at parts
    have beginning : wrap capacity start (capacity - start) = 0 := by unfold wrap; split <;> omega
    rw [parts, beginning, ← straight _ (Nat.le_refl _)]
    have second : read memory ⟨0, length - (capacity - start)⟩ =
        window memory capacity 0 (length - (capacity - start)) := by
      apply List.map_congr_left
      intro k member
      have low : k < length - (capacity - start) := List.mem_range.mp member
      have within : k < capacity := by omega
      simp [wrap, within]
    simp [second]

-- Writing `bytes` around the ring changes the cells they land on and no other.
def store (memory : Nat → α) (capacity start : Nat) (bytes : List α) : Nat → α := fun cell =>
  if cell < capacity then
    (bytes[if start ≤ cell then cell - start else cell + capacity - start]?).getD (memory cell)
  else memory cell

theorem store_inside (memory : Nat → α) {capacity start : Nat} (bytes : List α) (k : Nat)
    (inside : start < capacity) (fits : bytes.length ≤ capacity) (bound : k < bytes.length) :
    store memory capacity start bytes (wrap capacity start k) = bytes[k] := by
  have landed := wrap_lt inside (by omega : k ≤ capacity)
  have index : (if start ≤ wrap capacity start k then wrap capacity start k - start
      else wrap capacity start k + capacity - start) = k := by
    unfold wrap; split <;> split <;> omega
  simp [store, landed, index, bound]

theorem store_outside (memory : Nat → α) {capacity start : Nat} (bytes : List α) (cell : Nat)
    (inside : start < capacity)
    (outside : ∀ k < bytes.length, wrap capacity start k ≠ cell) :
    store memory capacity start bytes cell = memory cell := by
  unfold store
  split
  next within =>
    have missing : bytes[if start ≤ cell then cell - start else cell + capacity - start]? = none := by
      apply List.getElem?_eq_none
      by_contra short
      apply outside _ (Nat.lt_of_not_le short)
      unfold wrap; split <;> split <;> omega
    simp [missing]
  next => rfl

theorem scatter_split (memory : Nat → α) {capacity start length : Nat} (bytes : List α)
    (inside : start < capacity) (fits : length ≤ capacity) (enough : bytes.length ≤ length) :
    scatter memory (split capacity start length) bytes = store memory capacity start bytes := by
  funext cell
  unfold split store
  split
  next direct =>
    simp only [scatter, List.take_of_length_le enough, write]
    by_cases low : start ≤ cell <;> by_cases high : cell < capacity <;> simp only [low, high, if_true, if_false]
    · have missing : bytes[cell - start]? = none := List.getElem?_eq_none (by omega)
      simp [missing]
    · have missing : bytes[cell + capacity - start]? = none := List.getElem?_eq_none (by omega)
      simp [missing]
  next wraps =>
    simp only [scatter, write, Nat.zero_le, if_true, Nat.sub_zero, List.getElem?_take,
      List.getElem?_drop]
    by_cases low : start ≤ cell <;> by_cases high : cell < capacity <;> simp only [low, high, if_true, if_false]
    · have position : cell - start < capacity - start := by omega
      have missing : bytes[capacity - start + cell]? = none := by
        apply List.getElem?_eq_none; omega
      by_cases short : cell < length - (capacity - start) <;> simp [position, short, missing]
    · have position : ¬ cell - start < capacity - start := by omega
      have short : ¬ cell < length - (capacity - start) := by omega
      simp [position, short]
    · have index : capacity - start + cell = cell + capacity - start := by omega
      by_cases short : cell < length - (capacity - start)
      · simp [short, index]
      · have missing : bytes[cell + capacity - start]? = none := by
          apply List.getElem?_eq_none; omega
        simp [short, missing]
    · omega

theorem window_store (memory : Nat → α) {capacity start : Nat} (bytes : List α)
    (inside : start < capacity) (fits : bytes.length ≤ capacity) :
    window (store memory capacity start bytes) capacity start bytes.length = bytes := by
  apply List.ext_getElem (by simp)
  intro k left right
  rw [window_getElem, store_inside memory bytes k inside fits right]

end MiniGames.Circular
