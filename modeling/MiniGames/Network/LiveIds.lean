import MiniGames.Network.Slots

set_option autoImplicit false

namespace MiniGames

open Circular Runs

theorem makeSessionId_extract (sessionId : SessionId) :
    makeSessionId (extractIndex sessionId) (extractUniqueId sessionId) = sessionId := by
  apply BitVec.eq_of_getLsbD_eq
  intro i bound
  have mask : ∀ i < 16, (0xFFFF#64).getLsbD i = true := by decide
  by_cases low : i < 48
  · simp [makeSessionId, extractUniqueId, sessionUniqueMask_bits, low]
  · have position : 48 + (i - 48) = i := by omega
    have high : i - 48 < 16 := by omega
    have inside : i - 48 < 64 := by omega
    simp only [makeSessionId, extractIndex, extractUniqueId, BitVec.getLsbD_or,
      BitVec.getLsbD_shiftLeft, BitVec.getLsbD_and, BitVec.getLsbD_setWidth,
      BitVec.getLsbD_sshiftRight, sessionUniqueMask_bits, mask _ high, low, position, bound, high, inside]
    simp [Nat.not_le.mpr inside]

namespace Server

variable {env : Environment} {index : Index} {before middle after : Server}

theorem close_eventQueue (server : Server) (index : Index) :
    (server.close index).eventQueue = server.eventQueue := by
  simp only [close]
  split <;> rfl

theorem disconnect_eventQueue (env : Environment) (server : Server) (index : Index) :
    (server.disconnectSessionInternal env index).1.eventQueue = server.eventQueue ∨
      (server.disconnectSessionInternal env index).1.eventQueue =
        server.eventQueue ++ [⟨.disconnected, (server.sessions index).sessionId, []⟩] := by
  simp only [disconnectSessionInternal]
  split
  · have closed := (server.modify index (CSession.storeValid false)).close_eventQueue index
    simp only [announceDisconnect]
    split
    · apply Or.inr
      simp only [pushNetworkEvent, pushPending, modify_same, close_sessions, if_true,
        CSession.storeSending, CSession.storeValid]
      exact congrArg (· ++ _) closed
    · exact .inl closed
  · exact .inl rfl

structure OnlySlot (sessionId : SessionId) (before after : Server) : Prop where
  others : ∀ other, other ≠ extractIndex sessionId → after.sessions other = before.sessions other
  availableIndices : after.availableIndices = before.availableIndices
  pendingDisconStack : after.pendingDisconStack = before.pendingDisconStack ∨
    after.pendingDisconStack = sessionId :: before.pendingDisconStack
  eventQueue : after.eventQueue = before.eventQueue ∨
    after.eventQueue = before.eventQueue ++ [⟨.disconnected, sessionId, []⟩]

theorem Ends.onlySlot {sessionId : SessionId}
    (ends : Ends env (extractIndex sessionId) before after)
    (named : (before.sessions (extractIndex sessionId)).sessionId = sessionId) :
    OnlySlot sessionId before after := by
  rcases ends with within | ⟨middle, within, same⟩
  · exact ⟨within.others, within.availableIndices, .inl within.pendingDisconStack,
      .inl within.eventQueue⟩
  · have events := disconnect_eventQueue env middle (extractIndex sessionId)
    rw [within.sessionId, named, within.eventQueue, ← same] at events
    rcases disconnect_cases env middle (extractIndex sessionId) with ⟨_, kept⟩ | ⟨_, gone⟩
    · rw [kept] at same
      rw [same] at events ⊢
      exact ⟨within.others, within.availableIndices, .inl within.pendingDisconStack, events⟩
    · rw [← same] at gone
      have pending := gone.pendingDisconStack
      rw [within.sessionId, named, within.pendingDisconStack] at pending
      exact ⟨fun other apart => (gone.others other apart).trans (within.others other apart),
        gone.availableIndices.trans within.availableIndices, .inr pending, events⟩

structure Untouched (before after : Server) : Prop where
  sessions : after.sessions = before.sessions
  pendingDisconStack : after.pendingDisconStack = before.pendingDisconStack
  availableIndices : after.availableIndices = before.availableIndices
  eventQueue : after.eventQueue = before.eventQueue

theorem Untouched.refl (server : Server) : Untouched server server := ⟨rfl, rfl, rfl, rfl⟩

-- The two calls of the game layer, with any data and length.
def Calls (env : Environment) (effect : Server → Server → Prop) (server : Server)
    (sessionId : SessionId) : Prop :=
  (∀ data length, effect server (server.requestSendMsg env sessionId data length)) ∧
    effect server (server.requestDisconnectSession env sessionId).1

theorem calls_onlySlot {server : Server} {sessionId : SessionId}
    (named : (server.sessions (extractIndex sessionId)).sessionId = sessionId) :
    server.Calls env (OnlySlot sessionId) sessionId := by
  have unchanged : Ends env (extractIndex sessionId) server server := .inl (.refl _ server)
  have kept := unchanged.onlySlot named
  cases found : server.findSession env sessionId with
  | none =>
    constructor
    · intro data length
      simpa only [requestSendMsg, found] using kept
    · simpa only [requestDisconnectSession, found] using kept
  | some index =>
    have own := (findSession_eq found).1
    rw [own] at found
    constructor
    · intro data length
      exact (requestSendMsg_ends data length found).onlySlot named
    · have ends := ends_disconnect env server (extractIndex sessionId)
      simpa only [requestDisconnectSession, found] using ends.onlySlot named

theorem calls_untouched_iff {server : Server} {sessionId : SessionId} :
    server.Calls env Untouched sessionId ↔
      ∀ index, server.findSession env sessionId = some index →
        (server.sessions index).valid = false := by
  constructor
  · intro calls index found
    have same := calls.2
    simp only [requestDisconnectSession, found] at same
    rw [← same.sessions]
    exact disconnectSessionInternal_clears ..
  · intro invalid
    cases found : server.findSession env sessionId with
    | none =>
      constructor
      · intro data length
        simpa only [requestSendMsg, found] using .refl server
      · simpa only [requestDisconnectSession, found] using .refl server
    | some index =>
      have invalid := invalid index found
      constructor
      · intro data length
        simpa only [requestSendMsg, found, invalid] using .refl server
      · simpa only [requestDisconnectSession, found, disconnectSessionInternal_invalid invalid]
          using .refl server

section Marked

variable {bound : Index → Bool} {server next : Server}

-- A slot that BindIOCP has succeeded for holds an id with its own index.
def Marked (bound : Index → Bool) (server : Server) : Prop :=
  ∀ index, bound index = true → extractIndex (server.sessions index).sessionId = index

theorem Marked.keep (marked : server.Marked bound)
    (sessionId : ∀ index, (next.sessions index).sessionId = (server.sessions index).sessionId) :
    next.Marked bound := by
  intro index taken
  rw [sessionId]
  exact marked index taken

theorem close_sessionId (server : Server) (index other : Index) :
    ((server.close index).sessions other).sessionId = (server.sessions other).sessionId := by
  rw [close_sessions]
  split
  · next same => rw [same]
  · rfl

theorem marked_handled (env : Environment) (bound : Index → Bool) :
    Handled env fun server _ => server.Marked bound ∧ True where
  alike alike _ held := ⟨held.1.keep alike.sessionId, trivial⟩
  disconnect := by
    intro server index _ _ held
    rcases disconnect_cases env server index with ⟨_, same⟩ | ⟨_, gone⟩
    · rw [same]
      exact held
    · refine ⟨held.1.keep fun other => ?_, trivial⟩
      by_cases own : other = index
      · rw [own, gone.sessionId]
      · rw [gone.others other own]
  own held _ := held

theorem Marked.releaseSession (marked : server.Marked bound) :
    (server.releaseSession env).Marked bound := by
  apply releaseAll_invariant _ _ _ rfl marked
  intro server sessionId rest marked _
  simp only [releaseOne]
  split
  · exact marked.keep (close_sessionId _ _)
  · exact marked

theorem Marked.taken (marked : server.Marked bound) (clientSocket : Socket) (index : Index)
    (rest : List Index) :
    (server.takeSlot clientSocket index rest).Marked (Function.update bound index true) := by
  intro other taken
  simp only [takeSlot, modify_sessions]
  split
  · next own =>
    rw [own]
    exact extractIndex_makeSessionId ..
  · next apart =>
    rw [Function.update_of_ne apart] at taken
    exact marked other taken

theorem Marked.returned {index : Index} (marked : server.Marked (Function.update bound index true))
    (clientSocket : Socket) :
    (server.returnSlot clientSocket index).Marked (Function.update bound index false) := by
  intro other taken
  have apart : other ≠ index := by
    intro own
    rw [own, Function.update_self] at taken
    cases taken
  rw [Function.update_of_ne apart] at taken
  have before := marked other (by rwa [Function.update_of_ne apart])
  rw [← close_sessionId server index other] at before
  exact before

theorem Marked.processAccept (marked : server.Marked bound) (clientSocket : Socket)
    (outcome : Bool) : (server.processAccept env clientSocket outcome).Marked
      (match server.availableIndices with
        | [] => bound
        | index :: _ => Function.update bound index outcome) := by
  cases available : server.availableIndices with
  | nil =>
    apply processAccept_invariant (marked_handled env bound)
    · intro _
      exact marked
    · intro index rest other
      cases available.symm.trans other
    · intro index rest other
      cases available.symm.trans other
  | cons index rest =>
    have prepared := marked.taken clientSocket index rest
    apply processAccept_invariant (marked_handled env (Function.update bound index true))
    · intro none
      cases available.symm.trans none
    · intro other more front welcomed
      cases available.symm.trans front
      subst welcomed
      exact ⟨⟨prepared, trivial⟩, fun next held => held.1⟩
    · intro other more front failed
      cases available.symm.trans front
      subst failed
      exact prepared.returned clientSocket

end Marked

theorem findSession_unique {env : Environment} {server : Server} {sessionId : SessionId}
    {index : Index} (found : server.findSession env sessionId = some index) :
    extractUniqueId (server.sessions index).sessionId = extractUniqueId sessionId := by
  simp only [findSession] at found
  split at found
  · cases found
  · split at found
    · next same =>
      cases found
      exact same
    · cases found

end Server

namespace Ledger

open Server

variable {env : Environment} {ledger : Ledger} {sessionId : SessionId}

theorem touches_any (server : Server) (action : Action) :
    server.Touches env (fun _ _ => True) action := by
  cases action with
  | worker position => exact fun _ _ => trivial
  | requestSendMsg | requestDisconnectSession =>
    simp only [Touches]
    split <;> trivial
  | _ => trivial

theorem reachable_marked (reached : Reachable (step env) Always (start env) ledger) :
    ledger.server.Marked ledger.bound := by
  induction reached with
  | start =>
    intro index taken
    cases taken
  | @step ledger _ action _ _ taken ih =>
    obtain ⟨server, served, same⟩ := Option.bind_eq_some_iff.mp taken
    cases same
    have stepped (quiet : ∀ bound, action ≠ .accept bound) : server.Marked ledger.bound :=
      (marked_handled env ledger.bound).step (fun marked alike => marked.keep alike.sessionId)
        Marked.releaseSession (fun bound same => absurd same (quiet bound)) (touches_any ..) ih
        served
    cases action with
    | accept bound =>
      cases served
      have counted : Marked ledger.bound
        { ledger.server with accepted := ledger.server.accepted + 1 } := ih
      exact counted.releaseSession.processAccept _ bound
    | _ => exact stepped nofun

/-- The id of a session that was accepted and has not been disconnected since. -/
def Live (ledger : Ledger) (sessionId : SessionId) : Prop :=
  ∃ index, (ledger.server.sessions index).sessionId = sessionId ∧ ledger.bound index = true ∧
    (ledger.server.sessions index).valid = true

/-- FindSession finds a slot for the id that is `_valid` although it is no accepted client's. -/
def Stray (env : Environment) (ledger : Ledger) (sessionId : SessionId) : Prop :=
  ∃ index, ledger.server.findSession env sessionId = some index ∧ ledger.bound index = false ∧
    (ledger.server.sessions index).valid = true

theorem live_of_found (marked : ledger.server.Marked ledger.bound) {index : Index}
    (found : ledger.server.findSession env sessionId = some index)
    (taken : ledger.bound index = true) (valid : (ledger.server.sessions index).valid = true) :
    ledger.Live sessionId := by
  have own : extractIndex (ledger.server.sessions index).sessionId = extractIndex sessionId :=
    (marked index taken).trans (findSession_eq found).1
  have same := findSession_unique found
  refine ⟨index, ?_, taken, valid⟩
  rw [← makeSessionId_extract (ledger.server.sessions index).sessionId, own, same,
    makeSessionId_extract]

theorem named_of_live (marked : ledger.server.Marked ledger.bound) (live : ledger.Live sessionId) :
    (ledger.server.sessions (extractIndex sessionId)).sessionId = sessionId := by
  obtain ⟨index, rfl, taken, _⟩ := live
  rw [marked index taken]

/-- The calls with an id of no session are inert if and only if the id is no stray one, and those
with a session's id change no more than its slot. -/
theorem calls_inert_iff (reached : Reachable (step env) Always (start env) ledger)
    (sessionId : SessionId) :
    (¬ ledger.Live sessionId →
      (ledger.server.Calls env Untouched sessionId ↔ ¬ ledger.Stray env sessionId)) ∧
    (ledger.Live sessionId → ledger.server.Calls env (OnlySlot sessionId) sessionId) := by
  have marked := reachable_marked reached
  constructor
  · intro dead
    rw [calls_untouched_iff]
    constructor
    · rintro invalid ⟨index, found, _, valid⟩
      rw [invalid index found] at valid
      cases valid
    · intro tame index found
      by_contra valid
      have valid := Bool.eq_true_of_not_eq_false valid
      cases taken : ledger.bound index with
      | true => exact dead (live_of_found marked found taken valid)
      | false => exact tame ⟨index, found, taken, valid⟩
  · intro live
    exact calls_onlySlot (named_of_live marked live)

-- Right after Start the id 0 finds slot 0, which no client has.
theorem calls_inert_stray :
    ¬ ∀ ledger : Ledger, Reachable (step oneSlot) Always (start oneSlot) ledger →
      ∀ sessionId, ¬ ledger.Live sessionId → ledger.server.Calls oneSlot Untouched sessionId := by
  intro always
  have dead : ¬ (start oneSlot).Live 0 := by
    rintro ⟨index, _, taken, _⟩
    cases taken
  have same := (always (start oneSlot) .start 0 dead).2.pendingDisconStack
  revert same
  decide +kernel

-- No client has the id 5, and the first client has the id 1.
theorem calls_inert_first_client : (start oneSlot).server.Calls oneSlot Untouched 5 ∧
    ∃ ledger : Ledger, ledger.Live 1 ∧ ledger.server.Calls oneSlot (OnlySlot 1) 1 := by
  constructor
  · have dead : ¬ (start oneSlot).Live 5 := by
      rintro ⟨index, _, taken, _⟩
      cases taken
    apply ((calls_inert_iff .start 5).1 dead).mpr
    rintro ⟨index, found, _⟩
    have none : (start oneSlot).server.findSession oneSlot 5 = none := by decide +kernel
    rw [none] at found
    cases found
  · obtain ⟨ledger, reached, seen⟩ := Reachable.observe (step oneSlot) (start oneSlot)
      [.accept true] (fun ledger => (ledger.server.sessions 0).sessionId = 1 ∧
        ledger.bound 0 = true ∧ (ledger.server.sessions 0).valid = true) (by decide +kernel)
    have live : ledger.Live 1 := ⟨0, of_decide_eq_true seen⟩
    exact ⟨ledger, live, (calls_inert_iff reached 1).2 live⟩

end Ledger

end MiniGames
