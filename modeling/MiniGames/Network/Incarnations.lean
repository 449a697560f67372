import MiniGames.Network.SessionInvariants

set_option autoImplicit false

namespace MiniGames

def Completion.Failed (completion : Completion) : Prop :=
  completion.result = false ∨ completion.bytesTransferred = 0

instance (completion : Completion) : Decidable completion.Failed :=
  inferInstanceAs (Decidable (_ ∨ _))

namespace Server

open Runs

variable {env : Environment}

abbrev occupant (server : Server) (completion : Completion) : CSession :=
  server.sessions completion.request.index

-- The slot was initialised again since the I/O was posted.
def Reused (server : Server) (completion : Completion) : Prop :=
  (server.occupant completion).incarnation ≠ completion.request.incarnation

instance (server : Server) (completion : Completion) : Decidable (server.Reused completion) :=
  inferInstanceAs (Decidable (_ ≠ _))

def Spares (server next : Server) (completion : Completion) : Prop :=
  server.Reused completion →
    next.occupant completion = server.occupant completion ∧
      next.eventQueue = server.eventQueue ∧
      next.pendingDisconStack = server.pendingDisconStack

theorem disconnectSessionInternal_invalid {server : Server} {index : Index}
    (invalid : (server.sessions index).valid = false) :
    server.disconnectSessionInternal env index = (server, false) := by
  simp [disconnectSessionInternal, invalid]

theorem close_valid (server : Server) (index : Index) :
    ((server.close index).sessions index).valid = (server.sessions index).valid := by
  simp only [close]
  cases (server.sessions index).socket <;> simp [closesocket]

theorem disconnectSessionInternal_clears (env : Environment) (server : Server) (index : Index) :
    ((server.disconnectSessionInternal env index).1.sessions index).valid = false := by
  simp only [disconnectSessionInternal]
  split
  · have cleared : (((server.modify index (CSession.storeValid false)).close index).sessions
        index).valid = false := by
      simp [close_valid, CSession.storeValid]
    simp only [announceDisconnect]
    split <;> simpa [pushPending, pushNetworkEvent, CSession.storeSending] using cleared
  · next invalid => simpa using invalid

theorem workerThread_failed {server : Server} {completion : Completion}
    (failed : completion.Failed) :
    server.workerThread env completion =
      (server.disconnectSessionInternal env completion.request.index).1 := by
  have decided : server.dispatch completion = .disconnect := if_pos failed
  simp only [workerThread, decided]

theorem step_worker {server : Server} {position : Nat} {completion : Completion}
    (queued : server.completions[position]? = some completion) :
    server.step env (.worker position) =
      some ((server.dequeueCompletion position).workerThread env completion) := by
  simp [step, queued]

theorem failed_completion_spares_iff {server next : Server} {position : Nat}
    {completion : Completion} (queued : server.completions[position]? = some completion)
    (failed : completion.Failed)
    (handled : server.step env (.worker position) = some next) :
    Spares server next completion ↔
      ¬ server.Reused completion ∨ (server.occupant completion).valid = false := by
  cases (step_worker queued).symm.trans handled
  rw [workerThread_failed failed]
  by_cases valid : (server.occupant completion).valid = false
  · have unchanged : (server.dequeueCompletion position).disconnectSessionInternal env
        completion.request.index = (server.dequeueCompletion position, false) :=
      disconnectSessionInternal_invalid valid
    rw [unchanged]
    simp [Spares, dequeueCompletion, show (server.sessions _).valid = false from valid]
  · constructor
    · intro spares
      refine .inl fun reused => valid ?_
      rw [← (spares reused).1]
      exact disconnectSessionInternal_clears _ _ _
    · rintro (same | invalid)
      · exact fun reused => absurd reused same
      · exact absurd invalid valid

/-- The I/O in flight, and the queued completions of one kind, are for the sessions that their slots
now hold. -/
structure Current (kind : Completion → Prop) (server : Server) : Prop where
  outstanding : ∀ request ∈ server.outstanding,
    (server.sessions request.index).incarnation = request.incarnation
  queued : ∀ completion ∈ server.completions, kind completion → ¬ server.Reused completion

/-- ProcessAccept takes a slot that no I/O in flight, and no queued completion of the kind, is
for. -/
def Recycles (env : Environment) (kind : Completion → Prop) (server : Server) : Action → Prop
  | .accept _ =>
      match (server.released env).availableIndices with
      | [] => True
      | index :: _ =>
          (∀ request ∈ (server.released env).outstanding, request.index ≠ index) ∧
            ∀ completion ∈ (server.released env).completions,
              kind completion → completion.request.index ≠ index
  | _ => True

instance (kind : Completion → Prop) [DecidablePred kind] (server : Server) (action : Action) :
    Decidable (Recycles env kind server action) :=
  match action with
  | .accept _ =>
      show Decidable (match (server.released env).availableIndices with
        | [] => True
        | index :: _ => (∀ request ∈ (server.released env).outstanding, request.index ≠ index) ∧
            ∀ completion ∈ (server.released env).completions,
              kind completion → completion.request.index ≠ index) from
      match (server.released env).availableIndices with
      | [] => inferInstanceAs (Decidable True)
      | _ :: _ => inferInstanceAs (Decidable (_ ∧ _))
  | .acceptFailed | .receive _ _ | .transmit _ _ | .fail _ | .worker _ | .requestSendMsg _ _ _
  | .requestDisconnectSession _ => inferInstanceAs (Decidable True)

variable {kind : Completion → Prop}

theorem current_stable : Stable env (Current kind) where
  statement := by
    intro server index session current statement
    have same (other : Index) :
        ((server.modify index fun _ => session).sessions other).incarnation =
          (server.sessions other).incarnation := by
      rw [modify_sessions]
      split
      · next at_index => rw [at_index, statement_incarnation statement]
      · rfl
    refine ⟨fun request member => ?_, fun completion member of_kind => ?_⟩
    · rw [same]
      exact current.outstanding request member
    · simp only [Reused, occupant, same]
      exact current.queued completion member of_kind
  closesocket := by
    intro server socket current
    refine ⟨fun request member => ?_, fun completion member of_kind => ?_⟩
    · exact current.outstanding request (List.mem_filter.mp member).1
    · rcases List.mem_append.mp member with queued | closed
      · exact current.queued completion queued of_kind
      · obtain ⟨request, cancelled, rfl⟩ := List.mem_map.mp closed
        exact not_not.mpr (current.outstanding request (List.mem_filter.mp cancelled).1)
  post := by
    intro server index operation segments current
    simp only [Server.post]
    split
    · split
      · refine ⟨fun request member => ?_, current.queued⟩
        rcases List.mem_append.mp member with posted | posted
        · exact current.outstanding request posted
        · rw [List.mem_singleton.mp posted]
      · exact ⟨current.outstanding, current.queued⟩
    · exact ⟨current.outstanding, current.queued⟩
  complete := by
    intro server position request result bytes current found
    refine ⟨fun request member => ?_, fun completion member of_kind => ?_⟩
    · exact current.outstanding request (List.mem_of_mem_eraseIdx member)
    · rcases List.mem_append.mp member with queued | completed
      · exact current.queued completion queued of_kind
      · rw [List.mem_singleton.mp completed]
        exact not_not.mpr (current.outstanding request (List.mem_of_getElem? found))
  dequeueCompletion := by
    intro server position current
    exact ⟨current.outstanding, fun completion member =>
      current.queued completion (List.mem_of_mem_eraseIdx member)⟩
  bookkeeping := by
    intro server next current sessions outstanding completions
    refine ⟨?_, ?_⟩
    · rw [sessions, outstanding]
      exact current.outstanding
    · simp only [Reused, occupant, sessions, completions]
      exact current.queued

theorem Recycles.initialized {server : Server} {bound : Bool} {index : Index} {rest : List Index}
    {sessionId : SessionId} (recycles : Recycles env kind server (.accept bound))
    (free : (server.released env).availableIndices = index :: rest)
    (current : Current kind (server.released env)) :
    Current kind ((server.released env).modify index
      (CSession.initializeSession (some (server.accepted + 1)) sessionId
        (server.accepted + 1))) := by
  simp only [Recycles, free] at recycles
  refine ⟨fun request member => ?_, fun completion member of_kind => ?_⟩
  · rw [modify_sessions, if_neg (recycles.1 request member)]
    exact current.outstanding request member
  · simp only [Reused, occupant]
    rw [modify_sessions, if_neg (recycles.2 completion member of_kind)]
    exact current.queued completion member of_kind

theorem reachable_current {server : Server}
    (reached : Reachable (step env) (Recycles env kind) (start env) server) :
    Current kind server :=
  reached.invariant ⟨fun _ member => absurd member List.not_mem_nil,
    fun _ member => absurd member List.not_mem_nil⟩ (by
    intro server action next current recycles taken
    refine current_stable.step ?_ current taken
    rintro bound rfl index rest sessionId free released
    exact recycles.initialized free released)

/-- Handling a failed completion spares a later occupant of its slot exactly when there is none that
is valid, and so in every run that recycles no slot under such a completion. -/
theorem failed_completions_spare {server next : Server} {position : Nat} {completion : Completion}
    (queued : server.completions[position]? = some completion) (failed : completion.Failed)
    (handled : server.step env (.worker position) = some next) :
    (Spares server next completion ↔
      ¬ server.Reused completion ∨ (server.occupant completion).valid = false) ∧
    (Reachable (step env) (Recycles env Completion.Failed) (start env) server →
      Spares server next completion) := by
  have spares := failed_completion_spares_iff queued failed handled
  refine ⟨spares, fun clean => spares.mpr (.inl ?_)⟩
  exact (reachable_current clean).queued completion (List.mem_of_getElem? queued) failed

def oneSlot : Environment :=
  { maxClients := 1
    architectureType := .centralized
    header := typedHeader
    recvMemory := fun _ => some fun _ => 0
    sendMemory := fun _ => some fun _ => 0
    accepts := fun _ => true
    garbage := fun _ => 0 }

-- The completion of the receive that the first client's ProcessAccept posts.
def firstReceive (result : Bool) (bytes : Nat) : Completion :=
  ⟨⟨0, .recv, 1, [⟨0, 65535⟩], 1⟩, result, bytes⟩

-- The first client is disconnected and its slot goes to a second one; the failed receive of the
-- first is still queued.
theorem failed_completion_hits_next_client :
    ¬ ∀ server next position completion, Reachable (step oneSlot) Always (start oneSlot) server →
      server.completions[position]? = some completion → completion.Failed →
      server.step oneSlot (.worker position) = some next → Spares server next completion := by
  intro always
  obtain ⟨server, reached, seen⟩ := Reachable.observe (step oneSlot) (start oneSlot)
    [.accept true, .requestDisconnectSession 1, .accept true]
    (fun server => server.completions[0]? = some (firstReceive false 0) ∧
      server.Reused (firstReceive false 0) ∧ (server.sessions 0).valid = true) (by decide +kernel)
  obtain ⟨queued, reused, valid⟩ := of_decide_eq_true seen
  have spares := always _ _ _ _ reached queued (.inl rfl) (step_worker queued)
  have kept := congrArg CSession.valid (spares reused).1
  rw [workerThread_failed (.inl rfl)] at kept
  have cleared := disconnectSessionInternal_clears oneSlot (server.dequeueCompletion 0) 0
  exact Bool.false_ne_true (cleared.symm.trans (kept.trans valid))

-- The failed receive of the first client is queued until the second one has lost the slot again, or
-- is dropped before the slot goes to the second one.
theorem failed_completions_spare_recycled_slot :
    (∃ server next completion, server.completions[0]? = some completion ∧ completion.Failed ∧
      server.Reused completion ∧ (server.sessions 0).sessionId = 2 ∧
      server.step oneSlot (.worker 0) = some next ∧ Spares server next completion) ∧
    ∃ server next completion, server.completions[0]? = some completion ∧ completion.Failed ∧
      (server.sessions 0).sessionId = 2 ∧ server.step oneSlot (.worker 0) = some next ∧
      Spares server next completion := by
  constructor
  · obtain ⟨server, _, seen⟩ := Reachable.observe (step oneSlot) (start oneSlot)
      [.accept true, .requestDisconnectSession 1, .accept true, .requestDisconnectSession 2]
      (fun server => server.completions[0]? = some (firstReceive false 0) ∧
        server.Reused (firstReceive false 0) ∧ (server.sessions 0).sessionId = 2 ∧
        (server.sessions 0).valid = false) (by decide +kernel)
    obtain ⟨queued, reused, second, invalid⟩ := of_decide_eq_true seen
    exact ⟨server, _, _, queued, .inl rfl, reused, second, step_worker queued,
      (failed_completions_spare queued (.inl rfl) (step_worker queued)).1.mpr (.inr invalid)⟩
  · obtain ⟨server, reached, seen⟩ := Reachable.observe
      (restrict (step oneSlot) (Recycles oneSlot Completion.Failed)) (start oneSlot)
      [.accept true, .fail 0, .worker 0, .accept true, .fail 0]
      (fun server => server.completions[0]? = some ⟨⟨0, .recv, 2, [⟨0, 65535⟩], 2⟩, false, 0⟩ ∧
        (server.sessions 0).sessionId = 2) (by decide +kernel)
    obtain ⟨queued, second⟩ := of_decide_eq_true seen
    exact ⟨server, _, _, queued, .inl rfl, second, step_worker queued,
      (failed_completions_spare queued (.inl rfl) (step_worker queued)).2 reached.unrestrict⟩

-- Initialize, PostRecv and the send path all write the id of the session they run for.
def Armed (session : CSession) : Prop :=
  session.recvOverlapped = ⟨session.sessionId, .recv⟩ ∧
    session.sendOverlapped = ⟨session.sessionId, .send⟩

theorem armed_statement (session next : CSession) (statement : Statement session next)
    (armed : Armed session) : Armed next := by
  cases statement with
  | armRecv => exact ⟨rfl, armed.2⟩
  | armSend => exact ⟨armed.1, rfl⟩
  | _ => exact armed

theorem overlapped_sessionId {session : CSession} (armed : Armed session)
    (operation : IOOperation) :
    (session.overlapped operation).sessionId = session.sessionId ∧
      (session.overlapped operation).operation ≠ .accept := by
  cases operation <;> simp [CSession.overlapped, armed.1, armed.2]

theorem dispatch_successful {server : Server} {completion : Completion}
    (armed : Armed (server.occupant completion)) (successful : ¬ completion.Failed) :
    server.dispatch completion = .ignore ↔ (server.occupant completion).valid = false := by
  obtain ⟨same, operation⟩ := overlapped_sessionId armed completion.request.operation
  have passed : ¬ (completion.result = false ∨ completion.bytesTransferred = 0) := successful
  simp only [dispatch, passed, if_false]
  by_cases valid : (server.occupant completion).valid = false
  · simp [valid]
  · simp only [valid, same, if_false, ne_eq, not_true]
    cases posted : ((server.occupant completion).overlapped completion.request.operation).operation
    · simp
    · simp
    · exact absurd posted operation

theorem reused_slot_ignored_iff {server : Server} {completion : Completion}
    (reached : Reachable (step env) Always (start env) server)
    (successful : ¬ completion.Failed) :
    (server.Reused completion → server.dispatch completion = .ignore) ↔
      ¬ server.Reused completion ∨ (server.occupant completion).valid = false := by
  have armed : server.Every Armed :=
    Every.reachable armed_statement (fun _ _ _ _ _ => ⟨rfl, rfl⟩) (fun _ _ => ⟨rfl, rfl⟩) reached
  rw [dispatch_successful (armed completion.request.index) successful, imp_iff_not_or]

/-- A successful completion of a reused slot is ignored exactly when the slot is not valid; in a run
that recycles no slot under such a completion there is none. -/
theorem reused_slots_ignored {server : Server} {completion : Completion}
    (reached : Reachable (step env) Always (start env) server)
    (queued : completion ∈ server.completions) (successful : ¬ completion.Failed) :
    ((server.Reused completion → server.dispatch completion = .ignore) ↔
      ¬ server.Reused completion ∨ (server.occupant completion).valid = false) ∧
    (Reachable (step env) (Recycles env (¬ Completion.Failed ·)) (start env) server →
      ¬ server.Reused completion) :=
  ⟨reused_slot_ignored_iff reached successful,
    fun clean => (reachable_current clean).queued completion queued successful⟩

-- As before, but the receive had succeeded before the slot changed hands.
theorem reused_slot_not_ignored :
    ¬ ∀ server completion, Reachable (step oneSlot) Always (start oneSlot) server →
      completion ∈ server.completions → ¬ completion.Failed →
      server.Reused completion → server.dispatch completion = .ignore := by
  intro always
  obtain ⟨server, reached, seen⟩ := Reachable.observe (step oneSlot) (start oneSlot)
    [.accept true, .receive 0 [5, 0, 234, 3, 1], .requestDisconnectSession 1, .accept true]
    (fun server => firstReceive true 5 ∈ server.completions ∧
      server.Reused (firstReceive true 5) ∧
      server.dispatch (firstReceive true 5) = .processRecv) (by decide +kernel)
  obtain ⟨queued, reused, processed⟩ := of_decide_eq_true seen
  have ignored := always _ _ reached queued (by decide) reused
  rw [processed] at ignored
  cases ignored

theorem reused_slots_ignored_once_invalid :
    ∃ server : Server, server.Reused (firstReceive true 5) ∧
      server.dispatch (firstReceive true 5) = .ignore := by
  obtain ⟨server, reached, seen⟩ := Reachable.observe (step oneSlot) (start oneSlot)
    [.accept true, .receive 0 [5, 0, 234, 3, 1], .requestDisconnectSession 1, .accept true,
      .requestDisconnectSession 2]
    (fun server => firstReceive true 5 ∈ server.completions ∧
      server.Reused (firstReceive true 5) ∧
      (server.occupant (firstReceive true 5)).valid = false) (by decide +kernel)
  obtain ⟨queued, reused, invalid⟩ := of_decide_eq_true seen
  exact ⟨server, reused,
    (reused_slots_ignored reached queued (by decide)).1.mpr (.inr invalid) reused⟩

end Server

end MiniGames
