import Mathlib.Tactic.Common

set_option autoImplicit false

namespace MiniGames.Pairing

variable {Item Entry : Type*} {answers further : Item → Entry → Prop} {silent : Item → Prop}
  {item : Item} {items more : List Item} {entry : Entry} {entries others : List Entry}

inductive Paired (answers : Item → Entry → Prop) (silent : Item → Prop) :
    List Item → List Entry → Prop
  | nil : Paired answers silent [] []
  | answer {item : Item} {items : List Item} {entry : Entry} {entries : List Entry}
      (first : answers item entry) (rest : Paired answers silent items entries) :
      Paired answers silent (item :: items) (entry :: entries)
  | skip {item : Item} {items : List Item} {entries : List Entry}
      (first : silent item) (rest : Paired answers silent items entries) :
      Paired answers silent (item :: items) entries

theorem Paired.append (paired : Paired answers silent items entries)
    (later : Paired answers silent more others) :
    Paired answers silent (items ++ more) (entries ++ others) := by
  induction paired with
  | nil => exact later
  | answer first rest ih => exact .answer first ih
  | skip first rest ih => exact .skip first ih

theorem Paired.skipAll (quiet : ∀ item ∈ items, silent item) : Paired answers silent items [] := by
  induction items with
  | nil => exact .nil
  | cons item items ih =>
    obtain ⟨first, rest⟩ := List.forall_mem_cons.mp quiet
    exact .skip first (ih rest)

theorem Paired.mono (implied : ∀ item entry, answers item entry → further item entry)
    (paired : Paired answers silent items entries) : Paired further silent items entries := by
  induction paired with
  | nil => exact .nil
  | answer first rest ih => exact .answer (implied _ _ first) ih
  | skip first rest ih => exact .skip first ih

theorem Paired.head (paired : Paired answers silent (item :: items) entries) :
    (∃ entry rest, entries = entry :: rest ∧ answers item entry ∧
      Paired answers silent items rest) ∨
    silent item ∧ Paired answers silent items entries := by
  cases paired with
  | answer first rest => exact .inl ⟨_, _, rfl, first, rest⟩
  | skip first rest => exact .inr ⟨first, rest⟩

end MiniGames.Pairing
