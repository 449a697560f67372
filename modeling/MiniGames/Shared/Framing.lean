import Mathlib.Algebra.Ring.Nat
import Mathlib.Data.List.Basic
import Mathlib.Tactic.Common

set_option autoImplicit false

namespace MiniGames.Framing

variable {α : Type*}

-- What the first bytes of a stream say about its next frame.
inductive Verdict where
  | wait
  | reject
  | frame (length : Nat)
  deriving DecidableEq, Repr

/-- A verdict, once reached, names bytes that have arrived and no later byte changes it. -/
structure Framer (α : Type*) where
  classify : List α → Verdict
  fits : ∀ {bytes length}, classify bytes = .frame length → 0 < length ∧ length ≤ bytes.length
  stable : ∀ {bytes}, classify bytes ≠ .wait → ∀ more, classify (bytes ++ more) = classify bytes

section Announced

variable (header : Nat) (size : List α → Nat) (refused : Nat → Prop) [DecidablePred refused]

-- A frame whose header announces its length.
def announce (bytes : List α) : Verdict :=
  if bytes.length < header then .wait
  else if refused (size bytes) then .reject
  else if bytes.length < size bytes then .wait
  else .frame (size bytes)

variable {header size refused}

theorem announce_frame {bytes : List α} {length : Nat}
    (verdict : announce header size refused bytes = .frame length) :
    length = size bytes ∧ ¬ refused length ∧ length ≤ bytes.length ∧ header ≤ bytes.length := by
  simp only [announce] at verdict
  split at verdict
  · cases verdict
  split at verdict
  · cases verdict
  split at verdict
  · cases verdict
  · next whole accepted present =>
    cases verdict
    exact ⟨rfl, accepted, by omega, by omega⟩

theorem announce_stable
    (early : ∀ bytes more, header ≤ bytes.length → size (bytes ++ more) = size bytes)
    {bytes : List α} (reached : announce header size refused bytes ≠ .wait) (more : List α) :
    announce header size refused (bytes ++ more) = announce header size refused bytes := by
  simp only [announce] at reached ⊢
  by_cases short : bytes.length < header
  · simp [short] at reached
  · have longer : ¬ bytes.length + more.length < header := by omega
    simp only [short, if_false, List.length_append, longer, early bytes more (by omega)] at reached ⊢
    by_cases rejected : refused (size bytes)
    · simp [rejected]
    · by_cases partly : bytes.length < size bytes
      · simp [rejected, partly] at reached
      · have whole : ¬ bytes.length + more.length < size bytes := by omega
        simp [rejected, partly, whole]

end Announced

inductive Ending (α : Type*) where
  | residue (bytes : List α)
  | rejected
  deriving DecidableEq, Repr

structure Parse (α : Type*) where
  frames : List (List α)
  ending : Ending α
  deriving DecidableEq, Repr

-- The parse of a stream whose first frames were taken off before.
def Parse.after (taken : List (List α)) (parse : Parse α) : Parse α :=
  ⟨taken ++ parse.frames, parse.ending⟩

theorem Parse.after_after (first second : List (List α)) (parse : Parse α) :
    (parse.after second).after first = parse.after (first ++ second) := by
  simp only [Parse.after, List.append_assoc]

variable (framer : Framer α)

def Framer.parse (bytes : List α) : Parse α :=
  match _verdict : framer.classify bytes with
  | .wait => ⟨[], .residue bytes⟩
  | .reject => ⟨[], .rejected⟩
  | .frame length =>
      let tail := parse (bytes.drop length)
      ⟨bytes.take length :: tail.frames, tail.ending⟩
termination_by bytes.length
decreasing_by
  have := framer.fits _verdict
  simp only [List.length_drop]
  omega

-- A receiver keeps the residue of one read for the next and stops for good once it rejects.
def Framer.feed (state : Parse α) (chunk : List α) : Parse α :=
  match state.ending with
  | .rejected => state
  | .residue rest =>
      let next := framer.parse (rest ++ chunk)
      ⟨state.frames ++ next.frames, next.ending⟩

variable {framer}

theorem parse_wait {bytes : List α} (verdict : framer.classify bytes = .wait) :
    framer.parse bytes = ⟨[], .residue bytes⟩ := by
  rw [Framer.parse]; split <;> simp_all

theorem parse_reject {bytes : List α} (verdict : framer.classify bytes = .reject) :
    framer.parse bytes = ⟨[], .rejected⟩ := by
  rw [Framer.parse]; split <;> simp_all

theorem parse_frame {bytes : List α} {length : Nat}
    (verdict : framer.classify bytes = .frame length) :
    framer.parse bytes = ⟨bytes.take length :: (framer.parse (bytes.drop length)).frames,
      (framer.parse (bytes.drop length)).ending⟩ := by
  rw [Framer.parse]; split <;> simp_all

theorem parse_nil_frames (framer : Framer α) : (framer.parse []).frames = [] := by
  cases verdict : framer.classify [] with
  | wait => rw [parse_wait verdict]
  | reject => rw [parse_reject verdict]
  | frame length =>
    have fits := framer.fits verdict
    exact absurd (Nat.lt_of_lt_of_le fits.1 fits.2) (Nat.lt_irrefl _)

theorem Framer.induction (framer : Framer α) {motive : List α → Prop}
    (wait : ∀ bytes, framer.classify bytes = .wait → motive bytes)
    (reject : ∀ bytes, framer.classify bytes = .reject → motive bytes)
    (frame : ∀ bytes length, framer.classify bytes = .frame length →
      motive (bytes.drop length) → motive bytes)
    (bytes : List α) : motive bytes := by
  generalize size : bytes.length = n
  induction n using Nat.strongRecOn generalizing bytes with
  | _ n ih =>
    cases verdict : framer.classify bytes with
    | wait => exact wait bytes verdict
    | reject => exact reject bytes verdict
    | frame length =>
      have bound := framer.fits verdict
      exact frame bytes length verdict (ih _ (by simp only [List.length_drop]; omega) _ rfl)

theorem parse_append (bytes more : List α) :
    framer.parse (bytes ++ more) = framer.feed (framer.parse bytes) more := by
  induction bytes using framer.induction with
  | wait bytes verdict => simp [Framer.feed, parse_wait verdict]
  | reject bytes verdict =>
    have later := (framer.stable (by simp [verdict]) more).trans verdict
    simp [Framer.feed, parse_reject verdict, parse_reject later]
  | frame bytes length verdict ih =>
    have later := (framer.stable (by simp [verdict]) more).trans verdict
    have bound := (framer.fits verdict).2
    rw [parse_frame later, parse_frame verdict, List.take_append_of_le_length bound,
      List.drop_append_of_le_length bound, ih]
    unfold Framer.feed
    cases ending : (framer.parse (bytes.drop length)).ending <;> simp [ending]

theorem feed_after (taken : List (List α)) (parse : Parse α) (chunk : List α) :
    framer.feed (parse.after taken) chunk = (framer.feed parse chunk).after taken := by
  obtain ⟨frames, ending⟩ := parse
  cases ending with
  | residue rest => simp [Framer.feed, Parse.after]
  | rejected => simp [Framer.feed, Parse.after]

theorem parse_frames_grow (bytes more : List α) :
    (framer.parse bytes).frames <+: (framer.parse (bytes ++ more)).frames := by
  rw [parse_append]
  simp only [Framer.feed]
  split
  · exact List.prefix_refl _
  · exact List.prefix_append _ _

/-- However a stream is cut, the receiver ends where a parse of the whole stream ends. -/
theorem feed_chunks (bytes : List α) (chunks : List (List α)) :
    chunks.foldl framer.feed (framer.parse bytes) = framer.parse (bytes ++ chunks.flatten) := by
  induction chunks generalizing bytes with
  | nil => simp
  | cons chunk rest ih =>
    rw [List.foldl_cons, ← parse_append, ih, List.flatten_cons, List.append_assoc]

theorem parse_frames {property : List α → Prop}
    (announced : ∀ bytes length, framer.classify bytes = .frame length →
      property (bytes.take length))
    (bytes : List α) : ∀ frame ∈ (framer.parse bytes).frames, property frame := by
  induction bytes using framer.induction with
  | wait bytes verdict => simp [parse_wait verdict]
  | reject bytes verdict => simp [parse_reject verdict]
  | frame bytes length verdict ih =>
    rw [parse_frame verdict]
    intro frame member
    rcases List.mem_cons.mp member with rfl | later
    · exact announced bytes length verdict
    · exact ih frame later

theorem parse_flatten (bytes : List α) : (framer.parse bytes).frames.flatten <+: bytes := by
  induction bytes using framer.induction with
  | wait bytes verdict => simp [parse_wait verdict]
  | reject bytes verdict => simp [parse_reject verdict]
  | frame bytes length verdict ih =>
    rw [parse_frame verdict, List.flatten_cons]
    obtain ⟨rest, parsed⟩ := ih
    refine ⟨rest, ?_⟩
    rw [List.append_assoc, parsed, List.take_append_drop]

theorem parse_frames_append {frames : List (List α)}
    (whole : ∀ frame ∈ frames, framer.classify frame = .frame frame.length) (rest : List α) :
    framer.parse (frames.flatten ++ rest) = (framer.parse rest).after frames := by
  induction frames with
  | nil => simp [Parse.after]
  | cons frame later ih =>
    have alone := whole frame List.mem_cons_self
    have verdict : framer.classify (frame ++ (later.flatten ++ rest)) = .frame frame.length :=
      (framer.stable (by simp [alone]) _).trans alone
    have others := ih fun other member => whole other (List.mem_cons_of_mem _ member)
    rw [List.flatten_cons, List.append_assoc, parse_frame verdict, List.take_left, List.drop_left,
      others]
    rfl

theorem parse_residue_waits {bytes rest : List α}
    (ending : (framer.parse bytes).ending = .residue rest) : framer.classify rest = .wait := by
  induction bytes using framer.induction with
  | wait bytes verdict =>
    simp only [parse_wait verdict, Ending.residue.injEq] at ending
    exact ending ▸ verdict
  | reject bytes verdict => simp [parse_reject verdict] at ending
  | frame bytes length verdict ih =>
    rw [parse_frame verdict] at ending
    exact ih ending

theorem parse_residue {bytes rest : List α} (ending : (framer.parse bytes).ending = .residue rest) :
    (framer.parse bytes).frames.flatten ++ rest = bytes := by
  induction bytes using framer.induction with
  | wait bytes verdict =>
    simp only [parse_wait verdict, Ending.residue.injEq] at ending ⊢
    exact ending.symm
  | reject bytes verdict => simp [parse_reject verdict] at ending
  | frame bytes length verdict ih =>
    rw [parse_frame verdict] at ending ⊢
    rw [List.flatten_cons, List.append_assoc, ih ending, List.take_append_drop]

end MiniGames.Framing
