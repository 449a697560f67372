import Mathlib.Data.List.Basic
import Mathlib.Tactic.Common

set_option autoImplicit false

namespace MiniGames.Logs

variable {Entry : Type*} {fits : List Entry → Entry → Prop} {log : List Entry} {entry : Entry}

def Ordered (fits : List Entry → Entry → Prop) (log : List Entry) : Prop :=
  ∀ earlier entry later, log = earlier ++ entry :: later → fits earlier entry

theorem ordered_nil : Ordered fits [] := by
  intro earlier entry later split
  simp at split

theorem Ordered.append (ordered : Ordered fits log) (last : fits log entry) :
    Ordered fits (log ++ [entry]) := by
  intro earlier found later split
  rcases List.eq_nil_or_concat later with rfl | ⟨before, final, rfl⟩
  · obtain ⟨same, ends⟩ := List.append_inj' split rfl
    cases ends
    exact same ▸ last
  · rw [List.concat_eq_append, ← List.cons_append, ← List.append_assoc] at split
    exact ordered earlier found before (List.append_inj' split rfl).1

theorem Ordered.of_append (ordered : Ordered fits (log ++ [entry])) :
    Ordered fits log ∧ fits log entry := by
  refine ⟨fun earlier found later split => ?_, ordered log entry [] rfl⟩
  apply ordered earlier found (later ++ [entry])
  rw [split, List.append_assoc, List.cons_append]

end MiniGames.Logs
