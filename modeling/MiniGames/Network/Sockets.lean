import MiniGames.Network.Lifetime

set_option autoImplicit false

namespace MiniGames

open Circular Runs

namespace Server

structure Sockets (server : Server) : Prop where
  once : server.closed.Nodup
  opened : ∀ index socket, (server.sessions index).socket = some socket →
    socket ∉ server.closed ∧ socket ≤ server.accepted
  apart : ∀ index other socket, (server.sessions index).socket = some socket →
    (server.sessions other).socket = some socket → index = other
  early : ∀ socket ∈ server.closed, socket ≤ server.accepted

/-- A handle that `accept` has returned and nobody has taken or closed. -/
structure Unused (server : Server) (socket : Socket) : Prop where
  sessions : ∀ index, (server.sessions index).socket ≠ some socket
  closed : socket ∉ server.closed
  early : socket ≤ server.accepted

namespace Sockets

variable {env : Environment} {server next : Server} {index : Index}

theorem keep (sockets : Sockets server)
    (socket : ∀ index, (next.sessions index).socket = (server.sessions index).socket)
    (accepted : server.accepted ≤ next.accepted) (closed : next.closed = server.closed) :
    Sockets next where
  once := by
    rw [closed]
    exact sockets.once
  opened index handle at_index := by
    rw [socket] at at_index
    rw [closed]
    obtain ⟨still, early⟩ := sockets.opened index handle at_index
    exact ⟨still, Nat.le_trans early accepted⟩
  apart index other handle at_index at_other := by
    rw [socket] at at_index at_other
    exact sockets.apart index other handle at_index at_other
  early handle gone := by
    rw [closed] at gone
    exact Nat.le_trans (sockets.early handle gone) accepted

theorem closes (sockets : Sockets server)
    (same : ∀ other, other ≠ index →
      (next.sessions other).socket = (server.sessions other).socket)
    (reset : (next.sessions index).socket = none) (accepted : next.accepted = server.accepted)
    (closed : next.closed = server.closed ++ (server.sessions index).socket.toList) :
    Sockets next := by
  have elsewhere {other : Index} {handle : Socket}
      (at_other : (next.sessions other).socket = some handle) :
      other ≠ index ∧ (server.sessions other).socket = some handle := by
    have differs : other ≠ index := by
      rintro rfl
      rw [reset] at at_other
      cases at_other
    rw [same other differs] at at_other
    exact ⟨differs, at_other⟩
  refine ⟨?_, fun other handle at_other => ?_, fun first second handle at_first at_second => ?_,
    fun handle gone => ?_⟩
  · rw [closed]
    refine List.nodup_append.mpr ⟨sockets.once, by cases (server.sessions index).socket <;> simp,
      fun old before new after => ?_⟩
    rintro rfl
    exact (sockets.opened index old (Option.mem_toList.mp after)).1 before
  · obtain ⟨differs, before⟩ := elsewhere at_other
    obtain ⟨still, early⟩ := sockets.opened other handle before
    rw [closed, accepted, List.mem_append]
    refine ⟨?_, early⟩
    rintro (old | new)
    · exact still old
    · exact differs (sockets.apart other index handle before (Option.mem_toList.mp new))
  · exact sockets.apart first second handle (elsewhere at_first).2 (elsewhere at_second).2
  · rw [closed, List.mem_append] at gone
    rw [accepted]
    rcases gone with old | new
    · exact sockets.early handle old
    · exact (sockets.opened index handle (Option.mem_toList.mp new)).2

theorem close (sockets : Sockets server) (index : Index) : Sockets (server.close index) := by
  obtain ⟨_, _, accepted, closed⟩ := server.close_fields index
  have reset : ((server.close index).sessions index).socket = none := by
    rw [close_sessions, if_pos rfl]
  refine sockets.closes (fun other differs => ?_) reset accepted closed
  rw [close_sessions, if_neg differs]

theorem disconnected (sockets : Sockets server) (gone : Disconnected server next index) :
    Sockets next :=
  sockets.closes (fun other differs => by rw [gone.others other differs]) gone.socket gone.accepted
    gone.closed

theorem handled (env : Environment) : Handled env fun server _ => Sockets server ∧ True where
  alike := by
    rintro server next alike index ⟨sockets, _⟩
    exact ⟨sockets.keep alike.socket (Nat.le_of_eq alike.accepted.symm) alike.closed, trivial⟩
  disconnect := by
    rintro server index ⟨sockets, _⟩ other _
    rcases disconnect_cases env server index with ⟨_, same⟩ | ⟨_, gone⟩
    · rw [same]
      exact ⟨sockets, trivial⟩
    · exact ⟨sockets.disconnected gone, trivial⟩
  own held _ := held

theorem unusedClose {socket : Socket} (unused : server.Unused socket) (index : Index) :
    (server.close index).Unused socket := by
  obtain ⟨_, _, accepted, closed⟩ := server.close_fields index
  refine ⟨fun other => ?_, ?_, by rw [accepted]; exact unused.early⟩
  · rw [close_sessions]
    split
    · simp
    · exact unused.sessions other
  · rw [closed, List.mem_append]
    rintro (old | new)
    · exact unused.closed old
    · exact unused.sessions index (Option.mem_toList.mp new)

theorem releaseOne (sockets : Sockets server) {sessionId : SessionId} :
    Sockets (server.releaseOne env sessionId) := by
  simp only [Server.releaseOne]
  split
  · exact (sockets.close _).keep (fun _ => rfl) (Nat.le_refl _) rfl
  · exact sockets

theorem releaseSession (sockets : Sockets server) : Sockets (server.releaseSession env) := by
  refine releaseAll_invariant (fun server sessionId rest sockets _ => ?_) _ _ rfl sockets
  have popped : Sockets { server with pendingDisconStack := rest } :=
    sockets.keep (fun _ => rfl) (Nat.le_refl _) rfl
  exact popped.releaseOne

theorem unusedRelease {socket : Socket} (unused : server.Unused socket) :
    (server.releaseSession env).Unused socket := by
  have one : ∀ (server : Server) (sessionId : SessionId) (rest : List SessionId),
      server.Unused socket → server.pendingDisconStack = sessionId :: rest →
      ({ server with pendingDisconStack := rest }.releaseOne env sessionId).Unused socket := by
    intro server sessionId rest unused _
    have popped : Unused { server with pendingDisconStack := rest } socket :=
      ⟨unused.sessions, unused.closed, unused.early⟩
    simp only [Server.releaseOne]
    split
    · have closed := unusedClose popped
      exact ⟨(closed _).sessions, (closed _).closed, (closed _).early⟩
    · exact popped
  exact releaseAll_invariant one _ _ rfl unused

theorem closeUnused (sockets : Sockets server) {socket : Socket} (unused : server.Unused socket) :
    Sockets (server.closesocket socket) := by
  refine ⟨?_, fun index handle at_index => ?_, sockets.apart, fun handle gone => ?_⟩
  · refine List.nodup_append.mpr ⟨sockets.once, List.nodup_singleton _, fun old before new here => ?_⟩
    rintro rfl
    rw [List.mem_singleton.mp here] at before
    exact unused.closed before
  · obtain ⟨still, early⟩ := sockets.opened index handle at_index
    refine ⟨fun gone => ?_, early⟩
    rcases List.mem_append.mp gone with old | new
    · exact still old
    · rw [List.mem_singleton.mp new] at at_index
      exact unused.sessions index at_index
  · rcases List.mem_append.mp gone with old | new
    · exact sockets.early handle old
    · rw [List.mem_singleton.mp new]
      exact unused.early

theorem taken (sockets : Sockets server) {socket : Socket} (unused : server.Unused socket)
    (index : Index) (rest : List Index) : Sockets (server.takeSlot socket index rest) := by
  have stored (other : Index) : ((server.takeSlot socket index rest).sessions other).socket =
      if other = index then some socket else (server.sessions other).socket := by
    simp only [takeSlot, modify_sessions]
    split <;> rfl
  refine ⟨sockets.once, fun other handle at_other => ?_,
    fun first second handle at_first at_second => ?_, sockets.early⟩
  · rw [stored] at at_other
    split at at_other
    · cases at_other
      exact ⟨unused.closed, unused.early⟩
    · exact sockets.opened other handle at_other
  · rw [stored] at at_first at_second
    split at at_first <;> split at at_second
    · next one two => rw [one, two]
    · cases at_first
      exact absurd at_second (unused.sessions second)
    · cases at_second
      exact absurd at_first (unused.sessions first)
    · exact sockets.apart first second handle at_first at_second

theorem acceptThread (sockets : Sockets server) {bound : Bool}
    (binds : bound = true ∨ (server.released env).availableIndices = []) :
    Sockets (server.acceptThread env bound) := by
  have counted : Sockets { server with accepted := server.accepted + 1 } :=
    sockets.keep (fun _ => rfl) (Nat.le_succ _) rfl
  have fresh : Unused { server with accepted := server.accepted + 1 } (server.accepted + 1) := by
    refine ⟨fun index at_index => ?_, fun gone => ?_, Nat.le_refl _⟩
    · exact Nat.not_succ_le_self _ (sockets.opened index _ at_index).2
    · exact Nat.not_succ_le_self _ (sockets.early _ gone)
  have released : Sockets (server.released env) := counted.releaseSession
  have unused : (server.released env).Unused (server.accepted + 1) := unusedRelease fresh
  refine processAccept_invariant (handled env) (fun _ => released.closeUnused unused)
    (fun index rest available _ => ?_) (fun index rest available failed => ?_)
  · exact ⟨⟨released.taken unused index rest, trivial⟩, fun next held => held.1⟩
  · rcases binds with always | none
    · rw [failed] at always
      cases always
    · have empty := none.symm.trans available
      cases empty

theorem step {action : Action} (sockets : Sockets server)
    (binds : ∀ bound, action = .accept bound →
      bound = true ∨ (server.released env).availableIndices = [])
    (taken : server.step env action = some next) : Sockets next := by
  refine (handled env).step (fun sockets alike => ((handled env).alike alike 0 ⟨sockets, trivial⟩).1)
    releaseSession (fun bound same => sockets.acceptThread (binds bound same)) ?_ sockets taken
  cases action <;> simp only [Touches, implies_true]
  all_goals
    split <;> trivial

end Sockets

end Server

namespace Lifetime

open Server

variable {env : Environment}

/-- BindIOCP does not fail for a client that has been given a slot, and Disconnect finds no session
with an open socket. -/
def ClosesOnce (env : Environment) (lifetime : Lifetime) : Call → Prop
  | .network (.accept bound) =>
      bound = true ∨ (lifetime.server.released env).availableIndices = []
  | .disconnect => lifetime.phase = .running →
      ∀ index ∈ freshIndices env.maxClients, (lifetime.server.sessions index).socket = none
  | _ => True

instance (lifetime : Lifetime) (call : Call) : Decidable (lifetime.ClosesOnce env call) :=
  match call with
  | .network (.accept bound) => inferInstanceAs
      (Decidable (bound = true ∨ (lifetime.server.released env).availableIndices = []))
  | .disconnect =>
      -- The instance over all indices would go through each of the 2^16.
      have : Decidable (∀ index ∈ freshIndices env.maxClients,
          (lifetime.server.sessions index).socket = none) := List.decidableBAll _ _
      inferInstanceAs (Decidable (lifetime.phase = .running →
        ∀ index ∈ freshIndices env.maxClients, (lifetime.server.sessions index).socket = none))
  | .start _ | .joined | .destroy => inferInstanceAs (Decidable True)
  | .network .acceptFailed | .network (.receive _ _) | .network (.transmit _ _)
  | .network (.fail _) | .network (.worker _) | .network (.requestSendMsg _ _ _)
  | .network (.requestDisconnectSession _) => inferInstanceAs (Decidable True)

theorem shut_idle {server : Server}
    (idle : ∀ index ∈ freshIndices env.maxClients, (server.sessions index).socket = none) :
    (freshIndices env.maxClients).foldl shutSession server = server := by
  refine List.foldlRecOn (motive := (· = server)) _ _ rfl fun next same index member => ?_
  subst same
  simp [shutSession, idle index member]

theorem Advances.sockets {lifetime next : Lifetime} {call : Call}
    (advances : Advances env lifetime call next) (closes : lifetime.ClosesOnce env call)
    (sockets : lifetime.server.Sockets) : next.server.Sockets := by
  cases advances with
  | start outcome idle =>
    have renewed : ((freshIndices env.maxClients).foldl (renewSession env)
        lifetime.server).Sockets := by
      refine List.foldlRecOn (motive := Sockets) _ _ sockets fun server sockets index _ => ?_
      refine (sockets.close index).keep (fun other => ?_) (Nat.le_refl _) rfl
      simp only [renewSession, modify_sessions, close_sessions]
      split <;> rfl
    exact renewed.keep (fun _ => rfl) (Nat.le_refl _) rfl
  | network action server served taken =>
    refine sockets.step ?_ taken
    rintro bound rfl
    exact closes
  | disconnect running =>
    simp only [shut, shut_idle (closes running)]
    exact sockets.keep (fun _ => rfl) (Nat.le_refl _) rfl
  | disconnected other => exact sockets
  | joined stopping => exact sockets.keep (fun _ => rfl) (Nat.le_refl _) rfl
  | destroy idle =>
    exact List.foldlRecOn (motive := Sockets) _ _ sockets fun _ sockets index _ =>
      sockets.close index

/-- In a run in which no BindIOCP fails and Disconnect finds no open session, no handle is closed
twice. -/
theorem sockets_closed_once {lifetime : Lifetime}
    (reached : Reachable (Lifetime.step env) (ClosesOnce env) (constructed env) lifetime) :
    lifetime.server.closed.Nodup := by
  have sockets : lifetime.server.Sockets := by
    induction reached with
    | start =>
      exact ⟨List.nodup_nil, fun _ _ => nofun, fun _ _ _ => nofun,
        fun _ member => absurd member List.not_mem_nil⟩
    | step _ closes taken sockets => exact (step_advances taken).sockets closes sockets
  exact sockets.once

def Binds (_ : Lifetime) : Call → Prop
  | .network (.accept bound) => bound = true
  | _ => True

instance (lifetime : Lifetime) (call : Call) : Decidable (lifetime.Binds call) :=
  match call with
  | .network (.accept bound) => inferInstanceAs (Decidable (bound = true))
  | .start _ | .disconnect | .joined | .destroy => inferInstanceAs (Decidable True)
  | .network .acceptFailed | .network (.receive _ _) | .network (.transmit _ _)
  | .network (.fail _) | .network (.worker _) | .network (.requestSendMsg _ _ _)
  | .network (.requestDisconnectSession _) => inferInstanceAs (Decidable True)

-- A failed BindIOCP is one way to a second closesocket; without any, a shutdown with a client is.
theorem sockets_closed_twice :
    (¬ ∀ lifetime : Lifetime,
      Reachable (Lifetime.step oneSlot) Always (constructed oneSlot) lifetime →
        lifetime.server.closed.Nodup) ∧
    ¬ ∀ lifetime : Lifetime,
      Reachable (Lifetime.step oneSlot) Binds (constructed oneSlot) lifetime →
        lifetime.server.closed.Nodup := by
  constructor
  · intro always
    obtain ⟨lifetime, reached, seen⟩ := Reachable.observe (Lifetime.step oneSlot)
      (constructed oneSlot) [.start .started, .network (.accept false)]
      (fun lifetime => lifetime.server.closed = [1, 1]) (by decide +kernel)
    have once := always lifetime reached
    rw [of_decide_eq_true seen] at once
    exact absurd once (by decide)
  · intro always
    obtain ⟨lifetime, reached, seen⟩ := Reachable.observe
      (restrict (Lifetime.step oneSlot) Binds) (constructed oneSlot)
      [.start .started, .network (.accept true), .disconnect, .joined, .destroy]
      (fun lifetime => lifetime.server.closed = [1, 1]) (by decide +kernel)
    have once := always lifetime reached.unrestrict
    rw [of_decide_eq_true seen] at once
    exact absurd once (by decide)

theorem sockets_closed_once_shutdown :
    ∃ lifetime : Lifetime, lifetime.phase = .destroyed ∧ lifetime.server.closed = [1] ∧
      lifetime.server.closed.Nodup := by
  obtain ⟨lifetime, reached, seen⟩ := Reachable.observe
    (restrict (Lifetime.step oneSlot) (ClosesOnce oneSlot)) (constructed oneSlot)
    [.start .started, .network (.accept true), .network (.requestDisconnectSession 1),
      .network .acceptFailed, .disconnect, .joined, .destroy]
    (fun lifetime => lifetime.phase = .destroyed ∧ lifetime.server.closed = [1])
    (by decide +kernel)
  obtain ⟨destroyed, closed⟩ := of_decide_eq_true seen
  exact ⟨lifetime, destroyed, closed, sockets_closed_once reached.unrestrict⟩

end Lifetime

end MiniGames
