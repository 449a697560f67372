import Mathlib.Logic.Function.Basic
import Mathlib.Tactic.Common

set_option autoImplicit false

namespace MiniGames.Runs

section Transcripts

variable {State Spec Call Reply : Type*}

-- The state after a sequence of calls, with what each of them answered.
def transcript (call : State → Call → State × Reply) : State → List Call → State × List Reply
  | state, [] => (state, [])
  | state, next :: rest =>
      let answered := call state next
      let later := transcript call answered.1 rest
      (later.1, answered.2 :: later.2)

theorem transcript_append (call : State → Call → State × Reply) (state : State)
    (calls more : List Call) : transcript call state (calls ++ more) =
      let first := transcript call state calls
      let later := transcript call first.1 more
      (later.1, first.2 ++ later.2) := by
  induction calls generalizing state with
  | nil => rfl
  | cons next rest ih =>
    simp only [List.cons_append, transcript, ih]

/-- Two objects that answer one call alike, and stay related, answer every sequence alike. -/
theorem transcript_refines {call : State → Call → State × Reply}
    {callSpec : Spec → Call → Spec × Reply} {related : State → Spec → Prop}
    (answers : ∀ state spec next, related state spec →
      related (call state next).1 (callSpec spec next).1 ∧
        (call state next).2 = (callSpec spec next).2)
    (state : State) (spec : Spec) (initial : related state spec) (calls : List Call) :
    related (transcript call state calls).1 (transcript callSpec spec calls).1 ∧
      (transcript call state calls).2 = (transcript callSpec spec calls).2 := by
  induction calls generalizing state spec with
  | nil => exact ⟨initial, rfl⟩
  | cons next rest ih =>
    obtain ⟨kept, same⟩ := answers state spec next initial
    obtain ⟨final, replies⟩ := ih _ _ kept
    exact ⟨final, congrArg₂ List.cons same replies⟩

theorem transcript_history {call : State → Call → State × Reply}
    {holds : List (Call × Reply) → State → Prop}
    (kept : ∀ history state next, holds history state →
      holds (history ++ [(next, (call state next).2)]) (call state next).1)
    {history : List (Call × Reply)} {state : State} (initial : holds history state)
    (calls : List Call) : holds (history ++ calls.zip (transcript call state calls).2)
      (transcript call state calls).1 := by
  induction calls generalizing history state with
  | nil => simpa [transcript] using initial
  | cons next rest ih =>
    have later := ih (kept history state next initial)
    rw [List.append_assoc, List.singleton_append] at later
    exact later

end Transcripts

section Reachability

variable {State Action : Type*}

-- The states of the runs from `start` in which every step is an allowed one.
inductive Reachable (step : State → Action → Option State) (allowed : State → Action → Prop)
    (start : State) : State → Prop
  | start : Reachable step allowed start start
  | step {state next : State} {action : Action} (reached : Reachable step allowed start state)
      (permitted : allowed state action) (taken : step state action = some next) :
      Reachable step allowed start next

def Always (_ : State) (_ : Action) : Prop := True

variable {step : State → Action → Option State} {allowed : State → Action → Prop}
  {start state : State}

theorem Reachable.invariant {holds : State → Prop} (initial : holds start)
    (preserved : ∀ state action next, holds state → allowed state action →
      step state action = some next → holds next)
    (reached : Reachable step allowed start state) : holds state := by
  induction reached with
  | start => exact initial
  | step _ permitted taken ih => exact preserved _ _ _ ih permitted taken

theorem Reachable.weaken {weaker : State → Action → Prop}
    (implied : ∀ state action, allowed state action → weaker state action)
    (reached : Reachable step allowed start state) : Reachable step weaker start state := by
  induction reached with
  | start => exact .start
  | step _ permitted taken ih => exact .step ih (implied _ _ permitted) taken

/-- What ends alive was alive all the time, and each of its steps is matched by at most one step of
the specification. -/
theorem Reachable.refines {Spec Move : Type*} {specStep : Spec → Move → Option Spec}
    {specStart : Spec} (alive : State → Prop) (related : State → Spec → Prop)
    (before : ∀ state action next, Reachable step allowed start state →
      step state action = some next → alive next → alive state)
    (initial : related start specStart)
    (matched : ∀ state spec action next, Reachable step allowed start state →
      Reachable specStep Always specStart spec → related state spec → allowed state action →
      step state action = some next → alive next →
      related next spec ∨ ∃ move later, specStep spec move = some later ∧ related next later)
    (reached : Reachable step allowed start state) (ended : alive state) :
    ∃ spec, Reachable specStep Always specStart spec ∧ related state spec := by
  induction reached with
  | start => exact ⟨specStart, .start, initial⟩
  | step reached permitted taken ih =>
    obtain ⟨spec, arrived, relates⟩ := ih (before _ _ _ reached taken ended)
    rcases matched _ _ _ _ reached arrived relates permitted taken ended with
      same | ⟨move, later, moved, relates⟩
    · exact ⟨spec, arrived, same⟩
    · exact ⟨later, .step arrived trivial moved, relates⟩

def execute (step : State → Action → Option State) : State → List Action → Option State
  | state, [] => some state
  | state, action :: rest => (step state action).bind fun next => execute step next rest

theorem Reachable.execute {actions : List Action} {final : State}
    (reached : Reachable step Always start state)
    (run : execute step state actions = some final) : Reachable step Always start final := by
  induction actions generalizing state with
  | nil => exact Option.some.inj run ▸ reached
  | cons action rest ih =>
    obtain ⟨next, taken, later⟩ := Option.bind_eq_some_iff.mp run
    exact ih (.step reached trivial taken) later

/-- A schedule that can be evaluated shows that a state with an observation is reachable. -/
theorem Reachable.observe (step : State → Action → Option State) (start : State)
    (actions : List Action) (observed : State → Bool)
    (run : (Runs.execute step start actions).any observed = true) :
    ∃ final, Reachable step Always start final ∧ observed final = true := by
  obtain ⟨final, ran, seen⟩ := (Option.any_eq_true _ _).mp run
  exact ⟨final, Reachable.start.execute ran, seen⟩

def restrict (step : State → Action → Option State) (allowed : State → Action → Prop)
    [∀ state action, Decidable (allowed state action)] (state : State) (action : Action) :
    Option State :=
  if allowed state action then step state action else none

theorem Reachable.unrestrict [∀ state action, Decidable (allowed state action)]
    (reached : Reachable (restrict step allowed) Always start state) :
    Reachable step allowed start state := by
  induction reached with
  | start => exact .start
  | step _ _ taken ih =>
    simp only [restrict] at taken
    split at taken
    · next permitted => exact .step ih permitted taken
    · cases taken

end Reachability

section Conditions

variable {State Action : Type*} {step : State → Action → Option State}
  {allowed : State → Action → Prop}

def Allowed (step : State → Action → Option State) (allowed : State → Action → Prop) :
    State → List Action → Prop
  | _, [] => True
  | state, action :: rest =>
      allowed state action ∧ ∀ next ∈ step state action, Allowed step allowed next rest

instance decidableAllowed [∀ state action, Decidable (allowed state action)] :
    ∀ state actions, Decidable (Allowed step allowed state actions)
  | _, [] => inferInstanceAs (Decidable True)
  | state, action :: rest =>
      have (next : State) : Decidable (Allowed step allowed next rest) := decidableAllowed next rest
      inferInstanceAs (Decidable (allowed state action ∧ ∀ next ∈ step state action, _))

variable {holds lost : State → Prop} {state final : State} {actions : List Action}

theorem execute_invariant
    (preserved : ∀ state action next, holds state → step state action = some next → holds next)
    (initial : holds state) (run : execute step state actions = some final) : holds final := by
  induction actions generalizing state with
  | nil => exact Option.some.inj run ▸ initial
  | cons action rest ih =>
    obtain ⟨next, taken, later⟩ := Option.bind_eq_some_iff.mp run
    exact ih (preserved _ _ _ initial taken) later

theorem Allowed.invariant
    (preserved : ∀ state action next, holds state → allowed state action →
      step state action = some next → holds next)
    (initial : holds state) (every : Allowed step allowed state actions)
    (run : execute step state actions = some final) : holds final := by
  induction actions generalizing state with
  | nil => exact Option.some.inj run ▸ initial
  | cons action rest ih =>
    obtain ⟨next, taken, later⟩ := Option.bind_eq_some_iff.mp run
    exact ih (preserved _ _ _ initial every.1 taken) (every.2 next taken) later

theorem Allowed.spoiled
    (preserved : ∀ state action next, holds state → allowed state action →
      step state action = some next → holds next)
    (spoils : ∀ state action next, holds state → ¬ allowed state action →
      step state action = some next → lost next)
    (kept : ∀ state action next, lost state → step state action = some next → lost next)
    (initial : holds state) (broken : ¬ Allowed step allowed state actions)
    (run : execute step state actions = some final) : lost final := by
  induction actions generalizing state with
  | nil => exact absurd trivial broken
  | cons action rest ih =>
    obtain ⟨next, taken, later⟩ := Option.bind_eq_some_iff.mp run
    by_cases permitted : allowed state action
    · apply ih (preserved _ _ _ initial permitted taken) _ later
      intro every
      refine broken ⟨permitted, fun other found => ?_⟩
      cases (Option.mem_unique found taken)
      exact every
    · exact execute_invariant kept (spoils _ _ _ initial permitted taken) later

theorem Allowed.last {action : Action} (every : Allowed step allowed state (actions ++ [action]))
    (run : execute step state actions = some final) : allowed final action := by
  induction actions generalizing state with
  | nil => exact Option.some.inj run ▸ every.1
  | cons other rest ih =>
    obtain ⟨next, taken, later⟩ := Option.bind_eq_some_iff.mp run
    exact ih (every.2 next taken) later

theorem allowed_iff {alike : State → Action → Prop} {alive : State → Prop}
    (before : ∀ state action next, step state action = some next → alive next → alive state)
    (preserved : ∀ state action next, holds state → alive next →
      step state action = some next → holds next)
    (same : ∀ state action, holds state → alive state → (allowed state action ↔ alike state action))
    (initial : holds state) (run : execute step state actions = some final) (ended : alive final) :
    Allowed step allowed state actions ↔ Allowed step alike state actions := by
  have lived {state : State} {actions : List Action}
      (run : execute step state actions = some final) : alive state := by
    induction actions generalizing state with
    | nil => exact Option.some.inj run ▸ ended
    | cons action rest ih =>
      obtain ⟨next, taken, later⟩ := Option.bind_eq_some_iff.mp run
      exact before _ _ _ taken (ih later)
  induction actions generalizing state with
  | nil => exact Iff.rfl
  | cons action rest ih =>
    have living := lived run
    obtain ⟨next, taken, later⟩ := Option.bind_eq_some_iff.mp run
    have rest_same := ih (preserved _ _ _ initial (lived later) taken) later
    refine and_congr (same _ _ initial living) (forall₂_congr fun other found => ?_)
    cases Option.mem_unique found taken
    exact rest_same

end Conditions

end MiniGames.Runs
