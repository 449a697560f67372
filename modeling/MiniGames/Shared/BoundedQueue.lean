import Mathlib.Algebra.Ring.Nat
import Mathlib.Data.List.Basic
import Mathlib.Tactic.Common

set_option autoImplicit false

namespace MiniGames

-- A FIFO queue that cannot hold more than its limit.
structure BoundedQueue (α : Type*) (limit : Nat) where
  items : List α
  bounded : items.length ≤ limit

namespace BoundedQueue

variable {α : Type*} {limit : Nat}

def empty : BoundedQueue α limit := ⟨[], Nat.zero_le _⟩

def append (queue : BoundedQueue α limit) (more : List α) : Option (BoundedQueue α limit) :=
  if fits : (queue.items ++ more).length ≤ limit then some ⟨queue.items ++ more, fits⟩ else none

def drop (queue : BoundedQueue α limit) (count : Nat) : BoundedQueue α limit :=
  ⟨queue.items.drop count, by
    have := queue.bounded
    simp only [List.length_drop]
    omega⟩

theorem append_fits {queue : BoundedQueue α limit} {more : List α}
    (fits : queue.items.length + more.length ≤ limit) :
    ∃ longer, queue.append more = some longer ∧ longer.items = queue.items ++ more := by
  have within : (queue.items ++ more).length ≤ limit := by simpa using fits
  exact ⟨_, dif_pos within, rfl⟩

theorem append_full {queue : BoundedQueue α limit} {more : List α}
    (full : limit < queue.items.length + more.length) : queue.append more = none := by
  have beyond : ¬ (queue.items ++ more).length ≤ limit := by simpa using full
  exact dif_neg beyond

end BoundedQueue

end MiniGames
