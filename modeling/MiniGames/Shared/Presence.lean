import Mathlib.Data.List.Nodup
import Mathlib.Tactic.Common

set_option autoImplicit false

namespace MiniGames.Presence

variable {Member : Type*}

inductive Visit (Member : Type*) where
  | joined (member : Member)
  | left (member : Member)
  | neither
  deriving DecidableEq

variable {history : List (Visit Member)} {member : Member} {visit : Visit Member} {time : Nat}

/-- The time of the member's latest join, if the member has not left since. -/
structure Since (history : List (Visit Member)) (member : Member) (time : Nat) : Prop where
  joined : history[time]? = some (.joined member)
  latest : ∀ later, time < later → history[later]? ≠ some (.joined member)
  stayed : ∀ later, time < later → history[later]? ≠ some (.left member)

theorem Since.time_lt (since : Since history member time) : time < history.length :=
  (List.getElem?_eq_some_iff.mp since.joined).1

theorem getElem?_last (visit : Visit Member) : (history ++ [visit])[history.length]? = some visit :=
  List.getElem?_concat_length

theorem getElem?_earlier (visit : Visit Member) (earlier : time < history.length) :
    (history ++ [visit])[time]? = history[time]? := List.getElem?_append_left earlier

theorem getElem?_beyond (visit : Visit Member) (beyond : history.length < time) :
    (history ++ [visit])[time]? = none := by
  apply List.getElem?_eq_none
  rw [List.length_append, List.length_singleton]
  exact beyond

theorem since_joined : Since (history ++ [.joined member]) member time ↔ time = history.length := by
  constructor
  · intro since
    have inside := since.time_lt
    rw [List.length_append, List.length_singleton] at inside
    by_contra differs
    exact since.latest history.length (by omega) (getElem?_last _)
  · rintro rfl
    refine ⟨getElem?_last _, fun later after => ?_, fun later after => ?_⟩
    · simp [getElem?_beyond _ after]
    · simp [getElem?_beyond _ after]

theorem not_since_left : ¬ Since (history ++ [.left member]) member time := by
  intro since
  have inside := since.time_lt
  rw [List.length_append, List.length_singleton] at inside
  rcases Nat.lt_succ_iff_lt_or_eq.mp inside with earlier | rfl
  · exact since.stayed history.length earlier (getElem?_last _)
  · have last := since.joined
    rw [getElem?_last] at last
    cases last

theorem since_append (joins : visit ≠ .joined member) (leaves : visit ≠ .left member) :
    Since (history ++ [visit]) member time ↔ Since history member time := by
  have same (event : Visit Member) (apart : visit ≠ event) (later : Nat) :
      (history ++ [visit])[later]? = some event ↔ history[later]? = some event := by
    rcases Nat.lt_trichotomy later history.length with before | rfl | beyond
    · rw [getElem?_earlier visit before]
    · rw [getElem?_last, List.getElem?_eq_none (Nat.le_refl _)]
      simp [apart]
    · rw [getElem?_beyond visit beyond, List.getElem?_eq_none (Nat.le_of_lt beyond)]
  constructor
  · rintro ⟨joined, latest, stayed⟩
    exact ⟨(same _ joins time).mp joined,
      fun later after now => latest later after ((same _ joins later).mpr now),
      fun later after now => stayed later after ((same _ leaves later).mpr now)⟩
  · rintro ⟨joined, latest, stayed⟩
    exact ⟨(same _ joins time).mpr joined,
      fun later after now => latest later after ((same _ joins later).mp now),
      fun later after now => stayed later after ((same _ leaves later).mp now)⟩

/-- Those who have joined and not left since, in the order of their latest joins. -/
structure Roster (history : List (Visit Member)) (members : List Member) : Prop where
  nodup : members.Nodup
  present : ∀ member, member ∈ members ↔ ∃ time, Since history member time
  order : members.Pairwise fun first second => ∀ early late,
    Since history first early → Since history second late → early < late

namespace Roster

variable {members others : List Member}

theorem nil : Roster ([] : List (Visit Member)) [] := by
  refine ⟨List.nodup_nil, fun member => ?_, .nil⟩
  apply iff_of_false List.not_mem_nil
  rintro ⟨time, since⟩
  exact absurd since.time_lt (Nat.not_lt_zero _)

theorem neither (roster : Roster history members) : Roster (history ++ [.neither]) members := by
  have same (member : Member) (time : Nat) :
      Since (history ++ [.neither]) member time ↔ Since history member time :=
    since_append (by simp) (by simp)
  refine ⟨roster.nodup, fun member => ?_, ?_⟩
  · simp only [same]
    exact roster.present member
  · simp only [same]
    exact roster.order

theorem join (roster : Roster history members) (absent : member ∉ members) :
    Roster (history ++ [.joined member]) (members ++ [member]) := by
  have same {other : Member} (apart : other ≠ member) (time : Nat) :
      Since (history ++ [.joined member]) other time ↔ Since history other time := by
    apply since_append
    · simpa using Ne.symm apart
    · simp
  have differs {other : Member} (present : other ∈ members) : other ≠ member := by
    rintro rfl
    exact absent present
  refine ⟨?_, fun other => ?_, ?_⟩
  · rw [List.nodup_append]
    refine ⟨roster.nodup, List.nodup_singleton _, fun other present last newest => ?_⟩
    rw [List.mem_singleton.mp newest]
    exact differs present
  · rw [List.mem_append, List.mem_singleton]
    by_cases newest : other = member
    · subst newest
      exact iff_of_true (.inr rfl) ⟨history.length, since_joined.mpr rfl⟩
    · simp only [newest, or_false, same newest]
      exact roster.present other
  · rw [List.pairwise_append]
    refine ⟨?_, List.pairwise_singleton _ _, fun other present last newest => ?_⟩
    · refine roster.order.imp_of_mem fun first second order early late early_join late_join => ?_
      exact order early late ((same (differs first) early).mp early_join)
        ((same (differs second) late).mp late_join)
    · cases List.mem_singleton.mp newest
      intro early late early_join late_join
      rw [since_joined.mp late_join]
      exact ((same (differs present) early).mp early_join).time_lt

theorem leave [DecidableEq Member] (roster : Roster history members) (member : Member) :
    Roster (history ++ [.left member]) (members.erase member) := by
  have same {other : Member} (apart : other ≠ member) (time : Nat) :
      Since (history ++ [.left member]) other time ↔ Since history other time := by
    apply since_append
    · simp
    · simpa using Ne.symm apart
  refine ⟨roster.nodup.erase member, fun other => ?_, ?_⟩
  · rw [roster.nodup.mem_erase_iff]
    by_cases gone : other = member
    · subst gone
      apply iff_of_false
      · rintro ⟨apart, _⟩
        exact apart rfl
      · rintro ⟨time, since⟩
        exact not_since_left since
    · simp only [ne_eq, gone, not_false_eq_true, true_and, same gone]
      exact roster.present other
  · refine (roster.order.erase member).imp_of_mem
      fun first second order early late early_join late_join => ?_
    have first := (roster.nodup.mem_erase_iff.mp first).1
    have second := (roster.nodup.mem_erase_iff.mp second).1
    exact order early late ((same first early).mp early_join) ((same second late).mp late_join)

theorem unique (roster : Roster history members) (other : Roster history others) :
    members = others := by
  have same : members.Perm others := by
    rw [List.perm_ext_iff_of_nodup roster.nodup other.nodup]
    intro member
    rw [roster.present, other.present]
  refine same.eq_of_pairwise (fun first second present there order back => ?_) roster.order
    other.order
  obtain ⟨early, early_join⟩ := (roster.present first).mp present
  obtain ⟨late, late_join⟩ := (other.present second).mp there
  have before := order early late early_join late_join
  have after := back late early late_join early_join
  omega

end Roster

end MiniGames.Presence
