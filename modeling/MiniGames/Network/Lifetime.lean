import MiniGames.Network.Slots

set_option autoImplicit false

namespace MiniGames

open Circular Runs

namespace Server

/-- `_sessions[i] = std::make_unique<CSession>()`, which destroys the session that was there. -/
def renewSession (env : Environment) (server : Server) (index : Index) : Server :=
  (server.close index).modify index fun _ =>
    .new (env.recvMemory index) (env.sendMemory index)

/-- The two loops at the beginning of Start. -/
def prepare (env : Environment) (server : Server) : Server :=
  let server := (freshIndices env.maxClients).foldl (renewSession env) server
  { server with
    availableIndices := server.availableIndices ++ freshIndices env.maxClients }

-- Disconnect closes a session's socket and leaves `_socket` as it is.
def shutSession (server : Server) (index : Index) : Server :=
  match (server.sessions index).socket with
  | some socket => (server.closesocket socket).modify index (CSession.storeValid false)
  | none => server

/-- Disconnect up to the closing of the listen socket. -/
def shut (env : Environment) (server : Server) : Server :=
  let server := (freshIndices env.maxClients).foldl shutSession server
  { server with availableIndices := freshIndices env.maxClients }

-- The completions that nobody has dequeued are gone with the IOCP handle.
def closeIOCP (server : Server) : Server := { server with outstanding := [], completions := [] }

/-- `~CSession` of every session. -/
def destroySessions (env : Environment) (server : Server) : Server :=
  (freshIndices env.maxClients).foldl close server

end Server

-- `running` is `_running`; `stopping` is Disconnect's wait for the threads, which finish their turns.
inductive Phase where
  | constructed
  | stopped
  | running
  | stopping
  | destroyed
  deriving DecidableEq, Repr

structure Lifetime where
  server : Server
  phase : Phase

-- Where Start returns.
inductive StartOutcome where
  | startupFailed
  | iocpFailed
  | listenFailed
  | started
  deriving DecidableEq, Repr

inductive Call where
  | start (outcome : StartOutcome)
  | network (action : Server.Action)
  | disconnect
  | joined
  | destroy

namespace Lifetime

variable (env : Environment)

def constructed : Lifetime :=
  { server := { Server.start env with availableIndices := [] }
    phase := .constructed }

-- Which handlers can run: the threads are there until they are joined, the game layer all along.
def serves (lifetime : Lifetime) : Server.Action → Prop
  | .requestSendMsg _ _ _ | .requestDisconnectSession _ =>
      lifetime.phase = .running ∨ lifetime.phase = .stopping ∨ lifetime.phase = .stopped
  | _ => lifetime.phase = .running ∨ lifetime.phase = .stopping

instance (lifetime : Lifetime) (action : Server.Action) : Decidable (lifetime.serves action) :=
  match action with
  | .requestSendMsg _ _ _ | .requestDisconnectSession _ => inferInstanceAs (Decidable
      (lifetime.phase = .running ∨ lifetime.phase = .stopping ∨ lifetime.phase = .stopped))
  | .accept _ | .acceptFailed | .receive _ _ | .transmit _ _ | .fail _ | .worker _ =>
      inferInstanceAs (Decidable (lifetime.phase = .running ∨ lifetime.phase = .stopping))

def step (lifetime : Lifetime) : Call → Option Lifetime
  | .start outcome => do
      guard (lifetime.phase = .constructed ∨ lifetime.phase = .stopped)
      pure
        { server := lifetime.server.prepare env
          phase := if outcome = .started then .running else .stopped }
  | .network action => do
      guard (lifetime.serves action)
      let server ← lifetime.server.step env action
      pure { lifetime with server := server }
  | .disconnect =>
      if lifetime.phase = .running then
        some { server := lifetime.server.shut env, phase := .stopping }
      else some lifetime
  | .joined => do
      guard (lifetime.phase = .stopping)
      pure { server := lifetime.server.closeIOCP, phase := .stopped }
  | .destroy => do
      guard (lifetime.phase = .constructed ∨ lifetime.phase = .stopped)
      pure { server := lifetime.server.destroySessions env, phase := .destroyed }

end Lifetime

namespace Server

variable {env : Environment} {server : Server}

theorem prepare_availableIndices (env : Environment) (server : Server) :
    (server.prepare env).availableIndices =
      server.availableIndices ++ freshIndices env.maxClients := by
  have renewed : ((freshIndices env.maxClients).foldl (renewSession env) server).availableIndices =
      server.availableIndices := by
    refine List.foldlRecOn (motive := fun next : Server => next.availableIndices = server.availableIndices)
      _ _ rfl fun next same index _ => ?_
    rw [← same]
    exact (next.close_fields index).1
  simp only [prepare, renewed]

def Inside (env : Environment) (server : Server) : Prop :=
  ∀ index ∈ server.availableIndices, index.toNat < env.maxClients

namespace Inside

theorem handled (env : Environment) :
    Handled env fun server _ => Inside env server ∧ True where
  alike := by
    rintro server next alike index ⟨inside, _⟩
    exact ⟨by simpa only [Inside, alike.availableIndices] using inside, trivial⟩
  disconnect := by
    rintro server index ⟨inside, _⟩ other _
    rcases disconnect_cases env server index with ⟨_, same⟩ | ⟨_, gone⟩
    · rw [same]
      exact ⟨inside, trivial⟩
    · exact ⟨by simpa only [Inside, gone.availableIndices] using inside, trivial⟩
  own held _ := held

theorem releaseSession (inside : Inside env server) : Inside env (server.releaseSession env) := by
  refine releaseAll_invariant (fun server sessionId rest inside _ => ?_) _ _ rfl inside
  simp only [releaseOne]
  split
  · next index found =>
    obtain ⟨rfl, early⟩ := findSession_eq found
    intro other free
    rw [List.mem_append, List.mem_singleton, (close_fields _ _).1] at free
    rcases free with old | rfl
    · exact inside other old
    · exact early
  · exact inside

theorem acceptThread (inside : Inside env server) (bound : Bool) :
    Inside env (server.acceptThread env bound) := by
  have released : Inside env (server.released env) :=
    (show Inside env { server with accepted := server.accepted + 1 } from inside).releaseSession
  have front {index : Index} {rest : List Index}
      (available : (server.released env).availableIndices = index :: rest) :
      index.toNat < env.maxClients ∧ ∀ other ∈ rest, other.toNat < env.maxClients := by
    simpa [Inside, available] using released
  refine processAccept_invariant (handled env) (fun _ => released) (fun index rest available _ => ?_)
    (fun index rest available _ => ?_)
  · exact ⟨⟨(front available).2, trivial⟩, fun next held => held.1⟩
  · intro other free
    rw [returnSlot, closesocket, List.mem_append, List.mem_singleton, (close_fields _ _).1] at free
    rcases free with old | rfl
    · exact (front available).2 other old
    · exact (front available).1

theorem step {next : Server} {action : Action} (inside : Inside env server)
    (taken : server.step env action = some next) : Inside env next := by
  refine (handled env).step (fun inside alike => ((handled env).alike alike 0 ⟨inside, trivial⟩).1)
    releaseSession (fun bound _ => inside.acceptThread bound) ?_ inside taken
  cases action <;> simp only [Touches, implies_true]
  all_goals
    split <;> trivial

end Inside

end Server

namespace Lifetime

open Server

variable {env : Environment}

inductive Advances (env : Environment) (lifetime : Lifetime) : Call → Lifetime → Prop where
  | start (outcome : StartOutcome)
      (idle : lifetime.phase = .constructed ∨ lifetime.phase = .stopped) :
      Advances env lifetime (.start outcome)
        { server := lifetime.server.prepare env
          phase := if outcome = .started then .running else .stopped }
  | network (action : Action) (server : Server) (served : lifetime.serves action)
      (taken : lifetime.server.step env action = some server) :
      Advances env lifetime (.network action) { lifetime with server := server }
  | disconnect (running : lifetime.phase = .running) :
      Advances env lifetime .disconnect { server := lifetime.server.shut env, phase := .stopping }
  | disconnected (other : lifetime.phase ≠ .running) : Advances env lifetime .disconnect lifetime
  | joined (stopping : lifetime.phase = .stopping) :
      Advances env lifetime .joined { server := lifetime.server.closeIOCP, phase := .stopped }
  | destroy (idle : lifetime.phase = .constructed ∨ lifetime.phase = .stopped) :
      Advances env lifetime .destroy
        { server := lifetime.server.destroySessions env, phase := .destroyed }

theorem step_advances {lifetime next : Lifetime} {call : Call}
    (taken : lifetime.step env call = some next) : Advances env lifetime call next := by
  cases call with
  | start outcome =>
    simp only [Lifetime.step, Option.bind_eq_bind, Option.bind_eq_some_iff] at taken
    obtain ⟨_, idle, taken⟩ := taken
    cases taken
    exact .start outcome (by simpa [guard, or_iff_not_imp_left] using idle)
  | network action =>
    simp only [Lifetime.step, Option.bind_eq_bind, Option.bind_eq_some_iff] at taken
    obtain ⟨_, served, server, stepped, taken⟩ := taken
    cases taken
    exact .network action server (by simpa [guard] using served) stepped
  | disconnect =>
    simp only [Lifetime.step] at taken
    split at taken
    · next running =>
      cases taken
      exact .disconnect running
    · next other =>
      cases taken
      exact .disconnected other
  | joined =>
    simp only [Lifetime.step, Option.bind_eq_bind, Option.bind_eq_some_iff] at taken
    obtain ⟨_, stopping, taken⟩ := taken
    cases taken
    exact .joined (by simpa [guard] using stopping)
  | destroy =>
    simp only [Lifetime.step, Option.bind_eq_bind, Option.bind_eq_some_iff] at taken
    obtain ⟨_, idle, taken⟩ := taken
    cases taken
    exact .destroy (by simpa [guard, or_iff_not_imp_left] using idle)

theorem reachable_inside (few : env.maxClients ≤ 65535) {lifetime : Lifetime}
    (reached : Reachable (Lifetime.step env) Always (constructed env) lifetime) :
    Inside env lifetime.server := by
  have fresh : ∀ index ∈ freshIndices env.maxClients, index.toNat < env.maxClients := by
    intro index member
    have counted := freshIndices_count few index
    have some := List.count_pos_iff.mpr member
    by_contra outside
    rw [if_neg outside] at counted
    omega
  induction reached with
  | start => exact fun index free => absurd free List.not_mem_nil
  | step _ _ taken inside =>
    cases step_advances taken with
    | start outcome idle =>
      intro index free
      rw [prepare_availableIndices, List.mem_append] at free
      exact free.elim (inside index) (fresh index)
    | network action server served stepped => exact inside.step stepped
    | disconnect running => exact fresh
    | disconnected other => exact inside
    | joined stopping => exact inside
    | destroy idle =>
      refine List.foldlRecOn (motive := Inside env) _ _ inside fun server inside index _ => ?_
      simpa only [Inside, (server.close_fields index).1] using inside

theorem reachable_constructed {lifetime : Lifetime}
    (reached : Reachable (Lifetime.step env) Always (constructed env) lifetime)
    (first : lifetime.phase = .constructed) : lifetime = constructed env := by
  induction reached with
  | start => rfl
  | step _ _ taken ih =>
    cases step_advances taken with
    | start outcome idle =>
      simp only at first
      split at first <;> cases first
    | network action server served stepped =>
      simp only at first
      cases action <;> simp [serves, first] at served
    | disconnect running => cases first
    | disconnected other => exact ih first
    | joined stopping => cases first
    | destroy idle => cases first

/-- Start leaves every index in the queue once exactly when the queue was empty, as it is for the
first Start. -/
theorem start_fills_once_iff (few : env.maxClients ≤ 65535) {lifetime next : Lifetime}
    (reached : Reachable (Lifetime.step env) Always (constructed env) lifetime)
    (started : lifetime.step env (.start .started) = some next) :
    ((∀ index, index.toNat < env.maxClients → next.server.availableIndices.count index = 1) ↔
        lifetime.server.availableIndices = []) ∧
      (lifetime.phase = .constructed → lifetime.server.availableIndices = []) := by
  refine ⟨?_, fun first => by rw [reachable_constructed reached first]; rfl⟩
  have filled (index : Index) (inside : index.toNat < env.maxClients) :
      next.server.availableIndices.count index =
        lifetime.server.availableIndices.count index + 1 := by
    cases step_advances started with
    | start outcome idle =>
      rw [prepare_availableIndices, List.count_append, freshIndices_count few, if_pos inside]
  constructor
  · intro once
    by_contra occupied
    obtain ⟨index, free⟩ := List.exists_mem_of_ne_nil _ occupied
    have inside := reachable_inside few reached index free
    have twice := filled index inside
    have some := List.count_pos_iff.mpr free
    rw [once index inside] at twice
    omega
  · intro empty index inside
    rw [filled index inside, empty]
    rfl

-- A Start that has failed, and a Start after it.
theorem start_fills_twice :
    ¬ ∀ lifetime next : Lifetime,
      Reachable (Lifetime.step oneSlot) Always (constructed oneSlot) lifetime →
      lifetime.step oneSlot (.start .started) = some next →
      ∀ index, index.toNat < oneSlot.maxClients →
        next.server.availableIndices.count index = 1 := by
  intro always
  obtain ⟨lifetime, reached, seen⟩ := Reachable.observe (Lifetime.step oneSlot)
    (constructed oneSlot) [.start .startupFailed]
    (fun lifetime => (lifetime.step oneSlot (.start .started)).any fun next =>
      next.server.availableIndices.count 0 = 2) (by decide +kernel)
  obtain ⟨next, started, twice⟩ := (Option.any_eq_true _ _).mp seen
  have once := always lifetime next reached started 0 (by decide)
  rw [of_decide_eq_true twice] at once
  exact absurd once (by decide)

theorem first_start_fills_once :
    ∃ next : Lifetime, (constructed oneSlot).step oneSlot (.start .started) = some next ∧
      next.server.availableIndices.count 0 = 1 :=
  ⟨_, rfl, (start_fills_once_iff (by decide) .start rfl).1.mpr
    ((start_fills_once_iff (by decide) .start rfl).2 rfl) 0 (by decide)⟩

end Lifetime

end MiniGames
