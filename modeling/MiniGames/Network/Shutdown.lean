import MiniGames.Network.HandlerCosts
import MiniGames.Network.Lifetime

set_option autoImplicit false

namespace MiniGames

open Circular Runs

-- The statements of WorkerThread outside the handlers.
inductive WorkerPc where
  | test
  | waiting
  -- GetQueuedCompletionStatus has returned; the packets that Disconnect posts carry nothing.
  | woken (packet : Option Completion)
  | handling
  | returned
  deriving DecidableEq

-- Those of AcceptThread.
inductive AcceptPc where
  | test
  | accepting
  | handling
  | returned
  deriving DecidableEq

-- Those of Disconnect; the lists are what is left of its loops.
inductive DisconnectAllPc (Thread : Type) where
  | test
  | store
  | closeSessions (rest : List Index)
  | invalidate (index : Index) (rest : List Index)
  | refill
  | closeListen
  | wake (left : Nat)
  | joinWorkers (rest : List Thread)
  | joinAccept
  | closeHandle
  | returned
  deriving DecidableEq

-- There is no game layer: nobody but the workers calls RequestSendMsg or RequestDisconnectSession.
structure Service (Thread : Type) where
  machine : Machine Thread
  running : Bool
  listening : Bool
  -- The packets that PostQueuedCompletionStatus has queued.
  wakeups : Nat
  workers : Thread → WorkerPc
  acceptor : AcceptPc
  stop : DisconnectAllPc Thread

inductive ServiceMove (Thread : Type) where
  -- A statement of WorkerThread; `position` is the packet that it gets, `none` an empty one.
  | worker (thread : Thread) (position : Option Nat)
  | acceptor
  -- A statement of a handler.
  | handler (thread : Option Thread) (bound : Bool)
  -- A statement of Disconnect.
  | disconnect
  -- `accept` returns: a client has connected, or the call fails.
  | connected
  | acceptFailed
  | winsock (action : Server.Action)

-- The moves that do not wait for a client or for Winsock.
def ServiceMove.ofThread {Thread : Type} : ServiceMove Thread → Bool
  | .worker _ _ | .acceptor | .handler _ _ | .disconnect => true
  | .connected | .acceptFailed | .winsock _ => false

-- What Winsock does by itself.
def Server.Action.byWinsock : Server.Action → Bool
  | .receive _ _ | .transmit _ _ | .fail _ => true
  | _ => false

namespace Service

variable (env : Environment) {Thread : Type} [DecidableEq Thread] (crew : List Thread)

def start : Service Thread :=
  { machine := .start env
    running := true
    listening := true
    wakeups := 0
    workers := fun _ => .test
    acceptor := .test
    stop := .test }

def atWorker (service : Service Thread) (thread : Thread) (pc : WorkerPc) : Service Thread :=
  { service with workers := Function.update service.workers thread pc }

def serve (service : Service Thread) (server : Server) : Service Thread :=
  { service with machine := { service.machine with server := server } }

def enter (service : Service Thread) (thread : Option Thread) (frames : List Frame) :
    Service Thread :=
  { service with
    machine := { service.machine with
      threads := Function.update service.machine.threads thread frames } }

def workerThread (service : Service Thread) (thread : Thread) (position : Option Nat) :
    WorkerPc → Option (Service Thread)
  | .test => some (service.atWorker thread (if service.running then .waiting else .returned))
  | .waiting =>
      match position with
      | none => do
          guard (0 < service.wakeups)
          pure ({ service with wakeups := service.wakeups - 1 }.atWorker thread (.woken none))
      | some position => do
          let completion ← service.machine.server.completions[position]?
          pure ((service.serve (service.machine.server.dequeueCompletion position)).atWorker thread
            (.woken (some completion)))
  | .woken packet =>
      if service.running then
        match packet with
        | some completion =>
            some ((service.enter (some thread) [.dispatch completion]).atWorker thread .handling)
        | none => some (service.atWorker thread .test)
      else some (service.atWorker thread .returned)
  | .handling => do
      guard (service.machine.threads (some thread) = [])
      pure (service.atWorker thread .test)
  | .returned => none

-- `accept` gives a handle.
def acceptSocket (service : Service Thread) : Service Thread :=
  let server := service.machine.server
  let served := service.serve { server with accepted := server.accepted + 1 }
  { served.enter none [.releaseSession, .processAccept (server.accepted + 1)] with
    acceptor := .handling }

-- `accept` gives INVALID_SOCKET.
def acceptInvalid (service : Service Thread) : Service Thread :=
  { service.enter none [.releaseSession] with acceptor := .handling }

def acceptThread (service : Service Thread) : AcceptPc → Option (Service Thread)
  | .test => some { service with acceptor := if service.running then .accepting else .returned }
  | .accepting => do
      guard (service.listening = false)
      pure service.acceptInvalid
  | .handling => do
      guard (service.machine.threads none = [])
      pure { service with acceptor := .test }
  | .returned => none

def disconnect (service : Service Thread) :
    DisconnectAllPc Thread → Option (Service Thread)
  | .test => some { service with stop := if service.running then .store else .returned }
  | .store =>
      some { service with
        running := false
        stop := .closeSessions (freshIndices env.maxClients) }
  | .closeSessions [] => some { service with stop := .refill }
  | .closeSessions (index :: rest) =>
      match (service.machine.server.sessions index).socket with
      | some socket =>
          some { service.serve (service.machine.server.closesocket socket) with
            stop := .invalidate index rest }
      | none => some { service with stop := .closeSessions rest }
  | .invalidate index rest =>
      some { service.serve (service.machine.server.modify index (CSession.storeValid false)) with
        stop := .closeSessions rest }
  | .refill =>
      some { service.serve { service.machine.server with
          availableIndices := freshIndices env.maxClients } with
        stop := .closeListen }
  | .closeListen => some { service with listening := false, stop := .wake crew.length }
  | .wake (left + 1) =>
      some { service with wakeups := service.wakeups + 1, stop := .wake left }
  | .wake 0 => some { service with stop := .joinWorkers crew }
  | .joinWorkers (thread :: rest) => do
      guard (service.workers thread = .returned)
      pure { service with stop := .joinWorkers rest }
  | .joinWorkers [] => some { service with stop := .joinAccept }
  | .joinAccept => do
      guard (service.acceptor = .returned)
      pure { service with stop := .closeHandle }
  | .closeHandle =>
      some { service.serve service.machine.server.closeIOCP with stop := .returned }
  | .returned => none

def step (service : Service Thread) : ServiceMove Thread → Option (Service Thread)
  | .worker thread position => service.workerThread thread position (service.workers thread)
  | .acceptor => service.acceptThread service.acceptor
  | .handler thread bound =>
      match service.machine.threads thread with
      | [] => none
      | frame :: rest =>
          some { service with machine := service.machine.runFrame env thread bound frame rest }
  | .disconnect => service.disconnect env crew service.stop
  | .connected => do
      guard (service.acceptor = .accepting ∧ service.listening)
      pure service.acceptSocket
  | .acceptFailed => do
      guard (service.acceptor = .accepting)
      pure service.acceptInvalid
  | .winsock action => do
      guard action.byWinsock
      let server ← service.machine.server.step env action
      pure (service.serve server)

end Service

namespace Service

inductive Advances (env : Environment) {Thread : Type} [DecidableEq Thread] (crew : List Thread)
    (service : Service Thread) : ServiceMove Thread → Service Thread → Prop where
  | testWorker (thread : Thread) (position : Option Nat) (at_pc : service.workers thread = .test) :
      Advances env crew service (.worker thread position)
        (service.atWorker thread (if service.running then .waiting else .returned))
  | getEmpty (thread : Thread) (at_pc : service.workers thread = .waiting)
      (queued : 0 < service.wakeups) :
      Advances env crew service (.worker thread none)
        ({ service with wakeups := service.wakeups - 1 }.atWorker thread (.woken none))
  | getCompletion (thread : Thread) (position : Nat) (completion : Completion)
      (at_pc : service.workers thread = .waiting)
      (found : service.machine.server.completions[position]? = some completion) :
      Advances env crew service (.worker thread (some position))
        ((service.serve (service.machine.server.dequeueCompletion position)).atWorker thread
          (.woken (some completion)))
  | dispatch (thread : Thread) (position : Option Nat) (completion : Completion)
      (at_pc : service.workers thread = .woken (some completion))
      (running : service.running = true) :
      Advances env crew service (.worker thread position)
        ((service.enter (some thread) [.dispatch completion]).atWorker thread .handling)
  | skip (thread : Thread) (position : Option Nat) (at_pc : service.workers thread = .woken none)
      (running : service.running = true) :
      Advances env crew service (.worker thread position) (service.atWorker thread .test)
  | leave (thread : Thread) (position : Option Nat) (packet : Option Completion)
      (at_pc : service.workers thread = .woken packet) (stopped : service.running = false) :
      Advances env crew service (.worker thread position) (service.atWorker thread .returned)
  | handled (thread : Thread) (position : Option Nat) (at_pc : service.workers thread = .handling)
      (idle : service.machine.threads (some thread) = []) :
      Advances env crew service (.worker thread position) (service.atWorker thread .test)
  | testAccept (at_pc : service.acceptor = .test) :
      Advances env crew service .acceptor
        { service with acceptor := if service.running then .accepting else .returned }
  | acceptClosed (at_pc : service.acceptor = .accepting) (closed : service.listening = false) :
      Advances env crew service .acceptor service.acceptInvalid
  | accepted (at_pc : service.acceptor = .handling) (idle : service.machine.threads none = []) :
      Advances env crew service .acceptor { service with acceptor := .test }
  | connected (at_pc : service.acceptor = .accepting) (listening : service.listening = true) :
      Advances env crew service .connected service.acceptSocket
  | acceptFailed (at_pc : service.acceptor = .accepting) :
      Advances env crew service .acceptFailed service.acceptInvalid
  | handler (thread : Option Thread) (bound : Bool) (frame : Frame) (rest : List Frame)
      (top : service.machine.threads thread = frame :: rest) :
      Advances env crew service (.handler thread bound)
        { service with machine := service.machine.runFrame env thread bound frame rest }
  | disconnect (next : Service Thread)
      (taken : service.disconnect env crew service.stop = some next) :
      Advances env crew service .disconnect next
  | winsock (action : Server.Action) (server : Server) (outside : action.byWinsock = true)
      (taken : service.machine.server.step env action = some server) :
      Advances env crew service (.winsock action) (service.serve server)

variable {env : Environment} {Thread : Type} [DecidableEq Thread] {crew : List Thread}
  {service next : Service Thread} {move : ServiceMove Thread}

theorem workerThread_advances {thread : Thread} {position : Option Nat}
    (taken : service.workerThread thread position (service.workers thread) = some next) :
    Advances env crew service (.worker thread position) next := by
  cases at_pc : service.workers thread with
  | test =>
    simp only [at_pc, workerThread] at taken
    cases taken
    exact .testWorker thread position at_pc
  | waiting =>
    cases position with
    | none =>
      simp only [at_pc, workerThread, Option.bind_eq_bind, Option.bind_eq_some_iff] at taken
      obtain ⟨_, queued, taken⟩ := taken
      cases taken
      exact .getEmpty thread at_pc (Nat.pos_of_ne_zero (by simpa [guard] using queued))
    | some position =>
      simp only [at_pc, workerThread, Option.bind_eq_bind, Option.bind_eq_some_iff] at taken
      obtain ⟨completion, found, taken⟩ := taken
      cases taken
      exact .getCompletion thread position completion at_pc found
  | woken packet =>
    simp only [at_pc, workerThread] at taken
    split at taken
    · next running =>
      cases packet with
      | none =>
        cases taken
        exact .skip thread position at_pc running
      | some completion =>
        cases taken
        exact .dispatch thread position completion at_pc running
    · next stopped =>
      cases taken
      exact .leave thread position packet at_pc (Bool.eq_false_of_not_eq_true stopped)
  | handling =>
    simp only [at_pc, workerThread, Option.bind_eq_bind, Option.bind_eq_some_iff] at taken
    obtain ⟨_, idle, taken⟩ := taken
    cases taken
    exact .handled thread position at_pc (by simpa [guard] using idle)
  | returned => simp [at_pc, workerThread] at taken

theorem acceptThread_advances
    (taken : service.acceptThread service.acceptor = some next) :
    Advances env crew service .acceptor next := by
  cases at_pc : service.acceptor with
  | test =>
    simp only [at_pc, acceptThread] at taken
    cases taken
    exact .testAccept at_pc
  | accepting =>
    simp only [at_pc, acceptThread, Option.bind_eq_bind, Option.bind_eq_some_iff] at taken
    obtain ⟨_, closed, taken⟩ := taken
    cases taken
    exact .acceptClosed at_pc (by simpa [guard] using closed)
  | handling =>
    simp only [at_pc, acceptThread, Option.bind_eq_bind, Option.bind_eq_some_iff] at taken
    obtain ⟨_, idle, taken⟩ := taken
    cases taken
    exact .accepted at_pc (by simpa [guard] using idle)
  | returned => simp [at_pc, acceptThread] at taken

theorem step_advances (taken : service.step env crew move = some next) :
    Advances env crew service move next := by
  cases move with
  | worker thread position => exact workerThread_advances taken
  | acceptor => exact acceptThread_advances taken
  | handler thread bound =>
    simp only [step] at taken
    split at taken
    · cases taken
    · next frame rest top =>
      cases taken
      exact .handler thread bound frame rest top
  | disconnect => exact .disconnect next taken
  | connected =>
    simp only [step, Option.bind_eq_bind, Option.bind_eq_some_iff] at taken
    obtain ⟨_, guarded, taken⟩ := taken
    cases taken
    obtain ⟨at_pc, listening⟩ : service.acceptor = .accepting ∧ service.listening = true := by
      simpa [guard] using guarded
    exact .connected at_pc listening
  | acceptFailed =>
    simp only [step, Option.bind_eq_bind, Option.bind_eq_some_iff] at taken
    obtain ⟨_, at_pc, taken⟩ := taken
    cases taken
    exact .acceptFailed (by simpa [guard] using at_pc)
  | winsock action =>
    simp only [step, Option.bind_eq_bind, Option.bind_eq_some_iff] at taken
    obtain ⟨_, outside, server, stepped, taken⟩ := taken
    cases taken
    exact .winsock action server (by simpa [guard] using outside) stepped

end Service

namespace Service

variable {env : Environment} {Thread : Type} [DecidableEq Thread] [Fintype Thread]
  {crew : List Thread} {service next : Service Thread} {move : ServiceMove Thread}

-- Before Disconnect has cleared `_running`.
def early : DisconnectAllPc Thread → Bool
  | .test | .store => true
  | _ => false

-- Before Disconnect has closed the listen socket.
def listens : DisconnectAllPc Thread → Bool
  | .test | .store | .closeSessions _ | .invalidate _ _ | .refill | .closeListen => true
  | _ => false

-- How many packets are still to be posted.
def unposted (crew : List Thread) : DisconnectAllPc Thread → Nat
  | .wake left => left
  | pc => if listens pc then crew.length else 0

def waits : WorkerPc → Nat
  | .waiting => 1
  | _ => 0

def waiting (service : Service Thread) : Nat := ∑ thread, waits (service.workers thread)

def Joined (service : Service Thread) : Prop :=
  match service.stop with
  | .joinWorkers rest => ∀ thread, thread ∉ rest → service.workers thread = .returned
  | .joinAccept => ∀ thread, service.workers thread = .returned
  | .closeHandle | .returned =>
      (∀ thread, service.workers thread = .returned) ∧ service.acceptor = .returned
  | _ => True

/-- A packet is there, or still to be posted, for each worker that waits for one. -/
structure Orderly (crew : List Thread) (service : Service Thread) : Prop where
  rings : service.machine.server.Every Rings
  running : service.running = early service.stop
  listening : service.listening = listens service.stop
  served : service.waiting ≤ service.wakeups + unposted crew service.stop
  joined : service.Joined

omit [DecidableEq Thread] in
theorem waiting_le (every : ∀ thread, thread ∈ crew) (service : Service Thread) :
    service.waiting ≤ crew.length := by
  classical
  have one (thread : Thread) : waits (service.workers thread) ≤ 1 := by
    cases service.workers thread <;> simp [waits]
  calc service.waiting ≤ ∑ thread : Thread, 1 := Finset.sum_le_sum fun thread _ => one thread
    _ = Fintype.card Thread := by simp
    _ ≤ crew.toFinset.card := Finset.card_le_card fun thread _ => by simpa using every thread
    _ ≤ crew.length := crew.toFinset_card_le

theorem atWorker_waiting (service : Service Thread) (thread : Thread) (pc : WorkerPc) :
    (service.atWorker thread pc).waiting + waits (service.workers thread) =
      service.waiting + waits pc :=
  sum_update waits service.workers thread pc

omit [DecidableEq Thread] [Fintype Thread] in
theorem Joined.keep (joined : service.Joined) (stop : next.stop = service.stop)
    (workers : ∀ thread, service.workers thread = .returned → next.workers thread = .returned)
    (acceptor : service.acceptor = .returned → next.acceptor = .returned) : next.Joined := by
  unfold Joined at joined ⊢
  rw [stop]
  split
  · next rest at_stop =>
    simp only [at_stop] at joined
    exact fun thread done => workers thread (joined thread done)
  · next at_stop =>
    simp only [at_stop] at joined
    exact fun thread => workers thread (joined thread)
  · next at_stop =>
    simp only [at_stop] at joined
    exact ⟨fun thread => workers thread (joined.1 thread), acceptor joined.2⟩
  · next at_stop =>
    simp only [at_stop] at joined
    exact ⟨fun thread => workers thread (joined.1 thread), acceptor joined.2⟩
  · trivial

omit [Fintype Thread] in
theorem atWorker_returned {thread : Thread} (pc : WorkerPc)
    (working : service.workers thread ≠ .returned) (other : Thread)
    (done : service.workers other = .returned) :
    (service.atWorker thread pc).workers other = .returned := by
  have apart : other ≠ thread := by
    rintro rfl
    exact working done
  exact (Function.update_of_ne apart ..).trans done

omit [DecidableEq Thread] in
theorem Orderly.unposted_all (orderly : service.Orderly crew) (running : service.running = true) :
    unposted crew service.stop = crew.length := by
  have before := orderly.running.symm.trans running
  cases at_stop : service.stop <;> simp [at_stop, early] at before
  · rfl
  · rfl

theorem disconnect_orderly (every : ∀ thread, thread ∈ crew) (orderly : service.Orderly crew)
    (taken : service.disconnect env crew service.stop = some next) : next.Orderly crew := by
  obtain ⟨rings, running, listening, served, joined⟩ := orderly
  have stable : Server.Stable env (Server.Every Rings) :=
    Server.Every.stable Rings.statement
  unfold Joined at joined
  cases at_stop : service.stop with
  | test =>
    rw [at_stop] at running listening served taken
    simp only [disconnect, running, early, if_true] at taken
    cases taken
    exact ⟨rings, rfl, listening, served, trivial⟩
  | store =>
    rw [at_stop] at running listening served taken
    cases taken
    exact ⟨rings, rfl, listening, served, trivial⟩
  | closeSessions rest =>
    rw [at_stop] at running listening served taken
    cases rest with
    | nil =>
      cases taken
      exact ⟨rings, running, listening, served, trivial⟩
    | cons index rest =>
      simp only [disconnect] at taken
      split at taken
      · cases taken
        exact ⟨rings, running, listening, served, trivial⟩
      · cases taken
        exact ⟨rings, running, listening, served, trivial⟩
  | invalidate index rest =>
    rw [at_stop] at running listening served taken
    cases taken
    exact ⟨stable.statement index rings .invalidate, running, listening, served, trivial⟩
  | refill =>
    rw [at_stop] at running listening served taken
    cases taken
    exact ⟨rings, running, listening, served, trivial⟩
  | closeListen =>
    rw [at_stop] at running listening served taken
    cases taken
    exact ⟨rings, running, rfl, served, trivial⟩
  | wake left =>
    rw [at_stop] at running listening served taken
    cases left with
    | zero =>
      cases taken
      exact ⟨rings, running, listening, served, fun thread absent => absurd (every thread) absent⟩
    | succ left =>
      cases taken
      refine ⟨rings, running, listening, ?_, trivial⟩
      simp only [unposted, waiting] at served ⊢
      omega
  | joinWorkers rest =>
    rw [at_stop] at running listening served taken
    simp only [at_stop] at joined
    cases rest with
    | nil =>
      cases taken
      exact ⟨rings, running, listening, served, fun thread => joined thread List.not_mem_nil⟩
    | cons thread rest =>
      simp only [disconnect, Option.bind_eq_bind, Option.bind_eq_some_iff] at taken
      obtain ⟨_, returned, taken⟩ := taken
      cases taken
      have done : service.workers thread = .returned := by simpa [guard] using returned
      refine ⟨rings, running, listening, served, fun other absent => ?_⟩
      by_cases same : other = thread
      · rw [same]
        exact done
      · exact joined other (by simp [same, absent])
  | joinAccept =>
    rw [at_stop] at running listening served taken
    simp only [at_stop] at joined
    simp only [disconnect, Option.bind_eq_bind, Option.bind_eq_some_iff] at taken
    obtain ⟨_, returned, taken⟩ := taken
    cases taken
    exact ⟨rings, running, listening, served, joined, by simpa [guard] using returned⟩
  | closeHandle =>
    rw [at_stop] at running listening served taken
    simp only [at_stop] at joined
    cases taken
    exact ⟨rings, running, listening, served, joined⟩
  | returned =>
    rw [at_stop] at taken
    cases taken

theorem atWorker_served {thread : Thread} {pc : WorkerPc} {bound : Nat}
    (fewer : waits pc ≤ waits (service.workers thread)) (served : service.waiting ≤ bound) :
    (service.atWorker thread pc).waiting ≤ bound := by
  have kept := service.atWorker_waiting thread pc
  omega

theorem advances_orderly (every : ∀ thread, thread ∈ crew) (orderly : service.Orderly crew)
    (advances : Advances env crew service move next) : next.Orderly crew := by
  have stable : Server.Stable env (Server.Every Rings) :=
    Server.Every.stable Rings.statement
  obtain ⟨rings, running, listening, served, joined⟩ := id orderly
  cases advances with
  | testWorker thread position at_pc =>
    refine ⟨rings, running, listening, ?_,
      joined.keep rfl (atWorker_returned _ (by simp [at_pc])) id⟩
    cases flag : service.running with
    | true =>
      have all := waiting_le every (service.atWorker thread .waiting)
      have unposted := orderly.unposted_all flag
      simp only [if_true]
      exact all.trans (unposted ▸ Nat.le_add_left _ _)
    | false => exact atWorker_served (Nat.zero_le _) served
  | getEmpty thread at_pc queued =>
    refine ⟨rings, running, listening, ?_,
      joined.keep rfl (atWorker_returned _ (by simp [at_pc])) id⟩
    have kept := service.atWorker_waiting thread (.woken none)
    rw [at_pc] at kept
    simp only [waits, waiting, atWorker] at kept served ⊢
    omega
  | getCompletion thread position completion at_pc found =>
    exact ⟨rings, running, listening, atWorker_served (Nat.zero_le _) served,
      joined.keep rfl (atWorker_returned _ (by simp [at_pc])) id⟩
  | dispatch thread position completion at_pc flag =>
    exact ⟨rings, running, listening, atWorker_served (Nat.zero_le _) served,
      joined.keep rfl (atWorker_returned _ (by simp [at_pc])) id⟩
  | skip thread position at_pc flag =>
    exact ⟨rings, running, listening, atWorker_served (Nat.zero_le _) served,
      joined.keep rfl (atWorker_returned _ (by simp [at_pc])) id⟩
  | leave thread position packet at_pc stopped =>
    exact ⟨rings, running, listening, atWorker_served (Nat.zero_le _) served,
      joined.keep rfl (atWorker_returned _ (by simp [at_pc])) id⟩
  | handled thread position at_pc idle =>
    exact ⟨rings, running, listening, atWorker_served (Nat.zero_le _) served,
      joined.keep rfl (atWorker_returned _ (by simp [at_pc])) id⟩
  | testAccept at_pc =>
    exact ⟨rings, running, listening, served,
      joined.keep rfl (fun _ => id) (by simp [at_pc])⟩
  | acceptClosed at_pc closed =>
    exact ⟨rings, running, listening, served,
      joined.keep rfl (fun _ => id) (by simp [at_pc])⟩
  | accepted at_pc idle =>
    exact ⟨rings, running, listening, served,
      joined.keep rfl (fun _ => id) (by simp [at_pc])⟩
  | connected at_pc flag =>
    exact ⟨rings, running, listening, served,
      joined.keep rfl (fun _ => id) (by simp [at_pc])⟩
  | acceptFailed at_pc =>
    exact ⟨rings, running, listening, served,
      joined.keep rfl (fun _ => id) (by simp [at_pc])⟩
  | handler thread bound frame rest top =>
    have moves : Machine.Moves env service.machine (.run thread bound) _ :=
      .run thread bound frame rest top
    have moved := moves.rings rings
    exact ⟨moved, running, listening, served, joined.keep rfl (fun _ => id) id⟩
  | disconnect next taken => exact disconnect_orderly every orderly taken
  | winsock action server outside taken =>
    have kept : server.Every Rings := by
      refine stable.step (fun bound same => ?_) rings taken
      rw [same] at outside
      cases outside
    exact ⟨kept, running, listening, served, joined.keep rfl (fun _ => id) id⟩

omit [Fintype Thread] in
theorem handler_moves {thread : Option Thread} (busy : service.machine.threads thread ≠ []) :
    (service.step env crew (.handler thread true)).isSome := by
  obtain ⟨frame, rest, top⟩ := List.exists_cons_of_ne_nil busy
  simp [step, top]

theorem worker_moves {thread : Thread} (working : service.workers thread ≠ .returned)
    (served : service.waiting ≤ service.wakeups) :
    ∃ move : ServiceMove Thread, move.ofThread = true ∧ (service.step env crew move).isSome := by
  cases at_pc : service.workers thread with
  | test => exact ⟨.worker thread none, rfl, by simp [step, at_pc, workerThread]⟩
  | waiting =>
    have counted : waits (service.workers thread) ≤ service.waiting :=
      Finset.single_le_sum (f := fun thread => waits (service.workers thread))
        (fun _ _ => Nat.zero_le _) (Finset.mem_univ thread)
    rw [at_pc] at counted
    have queued : 0 < service.wakeups := Nat.lt_of_lt_of_le counted served
    exact ⟨.worker thread none, rfl, by simp [step, at_pc, workerThread, guard, queued]⟩
  | woken packet =>
    refine ⟨.worker thread none, rfl, ?_⟩
    simp only [step, at_pc, workerThread]
    split
    · cases packet <;> rfl
    · rfl
  | handling =>
    by_cases idle : service.machine.threads (some thread) = []
    · exact ⟨.worker thread none, rfl, by simp [step, at_pc, workerThread, guard, idle]⟩
    · exact ⟨.handler (some thread) true, rfl, handler_moves idle⟩
  | returned => exact absurd at_pc working

omit [Fintype Thread] in
theorem acceptor_moves (working : service.acceptor ≠ .returned)
    (closed : service.listening = false) :
    ∃ move : ServiceMove Thread, move.ofThread = true ∧ (service.step env crew move).isSome := by
  cases at_pc : service.acceptor with
  | test => exact ⟨.acceptor, rfl, by simp [step, at_pc, acceptThread]⟩
  | accepting => exact ⟨.acceptor, rfl, by simp [step, at_pc, acceptThread, guard, closed]⟩
  | handling =>
    by_cases idle : service.machine.threads none = []
    · exact ⟨.acceptor, rfl, by simp [step, at_pc, acceptThread, guard, idle]⟩
    · exact ⟨.handler none true, rfl, handler_moves idle⟩
  | returned => exact absurd at_pc working

theorem somebody_moves (orderly : service.Orderly crew) (unfinished : service.stop ≠ .returned) :
    ∃ move : ServiceMove Thread, move.ofThread = true ∧ (service.step env crew move).isSome := by
  have stops (enabled : (service.disconnect env crew service.stop).isSome) :
      ∃ move : ServiceMove Thread, move.ofThread = true ∧ (service.step env crew move).isSome :=
    ⟨.disconnect, rfl, enabled⟩
  have served := orderly.served
  have listening := orderly.listening
  cases at_stop : service.stop with
  | joinWorkers rest =>
    rw [at_stop] at served
    cases rest with
    | nil => exact stops (by simp [at_stop, disconnect])
    | cons thread rest =>
      by_cases done : service.workers thread = .returned
      · exact stops (by simp [at_stop, disconnect, guard, done])
      · exact worker_moves done served
  | joinAccept =>
    rw [at_stop] at listening
    by_cases done : service.acceptor = .returned
    · exact stops (by simp [at_stop, disconnect, guard, done])
    · exact acceptor_moves done listening
  | returned => exact absurd at_stop unfinished
  | closeSessions rest =>
    refine stops ?_
    rw [at_stop]
    cases rest with
    | nil => rfl
    | cons index rest =>
      simp only [disconnect]
      split <;> rfl
  | wake left =>
    refine stops ?_
    rw [at_stop]
    cases left <;> rfl
  | _ => exact stops (by simp [at_stop, disconnect])

def workerWeight : WorkerPc → Nat
  | .returned => 0
  | .test | .woken _ => 1
  | .waiting | .handling => 2

-- A client may still be accepted before the listen socket is closed.
def acceptWeight : AcceptPc → Nat
  | .returned => 0
  | .test => 1
  | .handling => 2
  | .accepting => 24

def stopWeight (crew : List Thread) : DisconnectAllPc Thread → Nat
  | .returned | .test | .store => 0
  | .closeHandle => 1
  | .joinAccept => 2
  | .joinWorkers rest => rest.length + 3
  | .wake left => left + crew.length + 4
  | .closeListen => 2 * crew.length + 5
  | .refill => 2 * crew.length + 6
  | .closeSessions rest => 2 * rest.length + 2 * crew.length + 7
  | .invalidate _ rest => 2 * rest.length + 2 * crew.length + 8

-- The completions that are queued do not count: once `_running` is cleared nobody handles them.
def load (server : Server) : Nat := 9 * server.buffered + 2 * server.pendingDisconStack.length

def remaining (crew : List Thread) (service : Service Thread) : Nat :=
  load service.machine.server + ∑ thread, framesWeight (service.machine.threads thread) +
    ∑ thread, workerWeight (service.workers thread) + acceptWeight service.acceptor +
    stopWeight crew service.stop

theorem atWorker_remaining (crew : List Thread) (service : Service Thread) (thread : Thread)
    (pc : WorkerPc) :
    (service.atWorker thread pc).remaining crew + workerWeight (service.workers thread) =
      service.remaining crew + workerWeight pc := by
  have sum := sum_update workerWeight service.workers thread pc
  simp only [remaining, atWorker]
  omega

theorem enter_remaining (service : Service Thread) (thread : Option Thread) (frames : List Frame) :
    ∑ other, framesWeight ((service.enter thread frames).machine.threads other) ≤
      ∑ other, framesWeight (service.machine.threads other) + framesWeight frames := by
  have sum := Machine.threads_weight service.machine.threads thread frames
  simp only [enter]
  omega

theorem acceptInvalid_remaining (crew : List Thread) (at_pc : service.acceptor = .accepting) :
    service.acceptInvalid.remaining crew + 1 ≤ service.remaining crew := by
  have entered := service.enter_remaining none [.releaseSession]
  have one : framesWeight [.releaseSession] = 1 := rfl
  simp only [remaining, acceptInvalid, at_pc, acceptWeight]
  simp only [enter] at entered ⊢
  omega

theorem acceptSocket_remaining (crew : List Thread) (at_pc : service.acceptor = .accepting) :
    service.acceptSocket.remaining crew ≤ service.remaining crew := by
  let server := service.machine.server
  have entered := service.enter_remaining none
    [.releaseSession, .processAccept (server.accepted + 1)]
  have weight : framesWeight [.releaseSession, .processAccept (server.accepted + 1)] = 21 := rfl
  have same : load { server with accepted := server.accepted + 1 } = load server := rfl
  simp only [remaining, acceptSocket, serve, at_pc, acceptWeight]
  simp only [enter, server] at entered weight same ⊢
  omega

theorem turn_load {server : Server} (env : Environment) (frame : Frame) (bound : Bool)
    (rings : server.Every Rings) :
    1 + framesWeight (frame.turn env server bound).2 + load (frame.turn env server bound).1 ≤
      frame.weight + load server := by
  have paid := frame.turn_paid env bound rings
  have reported := frame.turn_reported env server bound
  simp only [Server.weight, reported] at paid
  simp only [load]
  omega

theorem winsock_load {server later : Server} {action : Server.Action}
    (outside : action.byWinsock = true) (taken : server.step env action = some later) :
    load later = load server := by
  cases action with
  | receive position bytes =>
    simp only [Server.step, Option.bind_eq_bind, Option.bind_eq_some_iff] at taken
    obtain ⟨request, _, _, _, taken⟩ := taken
    cases taken
    have buffered := server.buffered_modify request.index fun session =>
      { session with recvQ := Server.fill session.recvQ request.segments bytes }
    exact congrArg (9 * · + 2 * server.pendingDisconStack.length) (Nat.add_right_cancel buffered)
  | transmit position count =>
    simp only [Server.step, Option.bind_eq_bind, Option.bind_eq_some_iff] at taken
    obtain ⟨request, _, _, _, taken⟩ := taken
    cases taken
    rfl
  | fail position =>
    simp only [Server.step, Option.bind_eq_bind, Option.bind_eq_some_iff] at taken
    obtain ⟨request, _, taken⟩ := taken
    cases taken
    rfl
  | _ => cases outside

omit [DecidableEq Thread] in
theorem disconnect_remaining (stopped : early service.stop = false)
    (taken : service.disconnect env crew service.stop = some next) :
    next.remaining crew + 1 ≤ service.remaining crew := by
  cases at_stop : service.stop with
  | test | store =>
    rw [at_stop] at stopped
    cases stopped
  | returned =>
    rw [at_stop] at taken
    cases taken
  | closeSessions rest =>
    rw [at_stop] at taken
    cases rest with
    | nil =>
      cases taken
      simp only [remaining, at_stop, stopWeight, List.length_nil]
      omega
    | cons index rest =>
      simp only [disconnect] at taken
      split at taken
      · cases taken
        have same (socket : Socket) :
            load (service.machine.server.closesocket socket) = load service.machine.server := rfl
        simp only [remaining, at_stop, stopWeight, serve, same, List.length_cons]
        omega
      · cases taken
        simp only [remaining, at_stop, stopWeight, List.length_cons]
        omega
  | invalidate index rest =>
    rw [at_stop] at taken
    cases taken
    have same : load (service.machine.server.modify index (CSession.storeValid false)) =
        load service.machine.server := by
      have buffered := service.machine.server.buffered_modify index (CSession.storeValid false)
      rw [load, Nat.add_right_cancel buffered]
      rfl
    simp only [remaining, at_stop, stopWeight, serve, same]
    omega
  | refill =>
    rw [at_stop] at taken
    cases taken
    have same : load { service.machine.server with
        availableIndices := freshIndices env.maxClients } = load service.machine.server := rfl
    simp only [remaining, at_stop, stopWeight, serve, same]
    omega
  | closeListen =>
    rw [at_stop] at taken
    cases taken
    simp only [remaining, at_stop, stopWeight]
    omega
  | wake left =>
    rw [at_stop] at taken
    cases left with
    | zero =>
      cases taken
      simp only [remaining, at_stop, stopWeight]
      omega
    | succ left =>
      cases taken
      simp only [remaining, at_stop, stopWeight]
      omega
  | joinWorkers rest =>
    rw [at_stop] at taken
    cases rest with
    | nil =>
      cases taken
      simp only [remaining, at_stop, stopWeight, List.length_nil]
      omega
    | cons thread rest =>
      simp only [disconnect, Option.bind_eq_bind, Option.bind_eq_some_iff] at taken
      obtain ⟨_, _, taken⟩ := taken
      cases taken
      simp only [remaining, at_stop, stopWeight, List.length_cons]
      omega
  | joinAccept =>
    simp only [at_stop, disconnect, Option.bind_eq_bind, Option.bind_eq_some_iff] at taken
    obtain ⟨_, _, taken⟩ := taken
    cases taken
    simp only [remaining, at_stop, stopWeight]
    omega
  | closeHandle =>
    rw [at_stop] at taken
    cases taken
    have same : load service.machine.server.closeIOCP = load service.machine.server := rfl
    simp only [remaining, at_stop, stopWeight, serve, same]
    omega

theorem advances_remaining (orderly : service.Orderly crew) (stopped : service.running = false)
    (advances : Advances env crew service move next) :
    move.ofThread.toNat + next.remaining crew ≤ service.remaining crew := by
  cases advances with
  | testWorker thread position at_pc =>
    have kept := service.atWorker_remaining crew thread .returned
    simp only [at_pc, workerWeight] at kept
    simp only [stopped, ServiceMove.ofThread, Bool.toNat_true, Bool.false_eq_true, if_false]
    omega
  | getEmpty thread at_pc queued =>
    have kept := { service with wakeups := service.wakeups - 1 }.atWorker_remaining crew thread
      (.woken none)
    have same : { service with wakeups := service.wakeups - 1 }.remaining crew =
        service.remaining crew := rfl
    simp only [at_pc, workerWeight, same] at kept
    simp only [ServiceMove.ofThread, Bool.toNat_true]
    omega
  | getCompletion thread position completion at_pc found =>
    have kept := atWorker_remaining crew
      (service.serve (service.machine.server.dequeueCompletion position)) thread
      (.woken (some completion))
    have same : (service.serve (service.machine.server.dequeueCompletion position)).remaining crew =
        service.remaining crew := rfl
    have at_served : (service.serve
        (service.machine.server.dequeueCompletion position)).workers thread = .waiting := at_pc
    simp only [at_served, workerWeight, same] at kept
    simp only [ServiceMove.ofThread, Bool.toNat_true]
    omega
  | dispatch thread position completion at_pc running =>
    rw [stopped] at running
    cases running
  | skip thread position at_pc running =>
    rw [stopped] at running
    cases running
  | leave thread position packet at_pc stopped =>
    have kept := service.atWorker_remaining crew thread .returned
    simp only [at_pc, workerWeight] at kept
    simp only [ServiceMove.ofThread, Bool.toNat_true]
    omega
  | handled thread position at_pc idle =>
    have kept := service.atWorker_remaining crew thread .test
    simp only [at_pc, workerWeight] at kept
    simp only [ServiceMove.ofThread, Bool.toNat_true]
    omega
  | testAccept at_pc =>
    simp only [remaining, at_pc, acceptWeight, stopped, ServiceMove.ofThread, Bool.toNat_true,
      Bool.false_eq_true, if_false]
    omega
  | acceptClosed at_pc closed =>
    have kept := acceptInvalid_remaining crew at_pc
    simp only [ServiceMove.ofThread, Bool.toNat_true]
    omega
  | accepted at_pc idle =>
    simp only [remaining, at_pc, acceptWeight, ServiceMove.ofThread, Bool.toNat_true]
    omega
  | connected at_pc listening =>
    have kept := acceptSocket_remaining crew at_pc
    simp only [ServiceMove.ofThread, Bool.toNat_false]
    omega
  | acceptFailed at_pc =>
    have kept := acceptInvalid_remaining crew at_pc
    simp only [ServiceMove.ofThread, Bool.toNat_false]
    omega
  | handler thread bound frame rest top =>
    have paid := turn_load env frame bound orderly.rings
    have sum := Machine.threads_weight service.machine.threads thread
      ((frame.turn env service.machine.server bound).2 ++ rest)
    rw [top] at sum
    simp only [framesWeight, List.map_append, List.sum_append, List.map_cons,
      List.sum_cons] at paid sum
    simp only [remaining, Machine.runFrame, framesWeight, ServiceMove.ofThread, Bool.toNat_true]
    omega
  | disconnect next taken =>
    have before := orderly.running.symm.trans stopped
    have kept := disconnect_remaining before taken
    simp only [ServiceMove.ofThread, Bool.toNat_true]
    omega
  | winsock action server outside taken =>
    have same := winsock_load outside taken
    simp only [remaining, serve, same, ServiceMove.ofThread, Bool.toNat_false]
    omega

omit [DecidableEq Thread] [Fintype Thread] in
theorem disconnect_stopped (stopped : service.running = false)
    (taken : service.disconnect env crew service.stop = some next) : next.running = false := by
  cases at_stop : service.stop with
  | closeSessions rest =>
    rw [at_stop] at taken
    cases rest with
    | nil =>
      cases taken
      exact stopped
    | cons index rest =>
      simp only [disconnect] at taken
      split at taken <;>
        · cases taken
          exact stopped
  | wake left =>
    rw [at_stop] at taken
    cases left <;>
      · cases taken
        exact stopped
  | joinWorkers rest =>
    rw [at_stop] at taken
    cases rest with
    | nil =>
      cases taken
      exact stopped
    | cons thread rest =>
      simp only [disconnect, Option.bind_eq_bind, Option.bind_eq_some_iff] at taken
      obtain ⟨_, _, taken⟩ := taken
      cases taken
      exact stopped
  | joinAccept =>
    simp only [at_stop, disconnect, Option.bind_eq_bind, Option.bind_eq_some_iff] at taken
    obtain ⟨_, _, taken⟩ := taken
    cases taken
    exact stopped
  | store =>
    rw [at_stop] at taken
    cases taken
    rfl
  | returned =>
    rw [at_stop] at taken
    cases taken
  | _ =>
    rw [at_stop] at taken
    cases taken
    exact stopped

omit [Fintype Thread] in
theorem advances_stopped (stopped : service.running = false)
    (advances : Advances env crew service move next) : next.running = false := by
  cases advances with
  | disconnect next taken => exact disconnect_stopped stopped taken
  | _ => exact stopped

omit [DecidableEq Thread] in
theorem start_orderly (env : Environment) (crew : List Thread) :
    (start env : Service Thread).Orderly crew where
  rings index := Rings.constructed (env.recvMemory index) (env.sendMemory index)
  running := rfl
  listening := rfl
  served := by simp [waiting, start, waits]
  joined := trivial

theorem reachable_orderly (every : ∀ thread, thread ∈ crew)
    (reached : Reachable (step env crew) Always (start env) service) : service.Orderly crew :=
  reached.invariant (start_orderly env crew) fun _ _ _ orderly _ taken =>
    advances_orderly every orderly (step_advances taken)

/-- Once Disconnect has cleared `_running`, the threads have only so many statements left, one of
them can move until it returns, and by then they have all returned. -/
theorem disconnect_returns (every : ∀ thread, thread ∈ crew)
    (reached : Reachable (step env crew) Always (start env) service)
    (stopped : service.running = false) {moves : List (ServiceMove Thread)}
    {final : Service Thread} (ran : execute (step env crew) service moves = some final) :
    moves.countP ServiceMove.ofThread + final.remaining crew ≤ service.remaining crew ∧
      (final.stop ≠ .returned → ∃ move : ServiceMove Thread,
        move.ofThread = true ∧ (final.step env crew move).isSome) ∧
      (final.stop = .returned →
        (∀ thread, final.workers thread = .returned) ∧ final.acceptor = .returned) := by
  have orderly := reachable_orderly every reached
  have kept (service : Service Thread) (move : ServiceMove Thread) (next : Service Thread)
      (holds : service.Orderly crew ∧ service.running = false)
      (taken : service.step env crew move = some next) :
      next.Orderly crew ∧ next.running = false :=
    ⟨advances_orderly every holds.1 (step_advances taken),
      advances_stopped holds.2 (step_advances taken)⟩
  have paid (service : Service Thread) (move : ServiceMove Thread) (next : Service Thread)
      (holds : service.Orderly crew ∧ service.running = false)
      (taken : service.step env crew move = some next) :
      move.ofThread.toNat + next.remaining crew ≤ service.remaining crew + 0 :=
    (advances_remaining holds.1 holds.2 (step_advances taken)).trans (Nat.le_add_right _ 0)
  have charged := execute_charged (remaining crew) (fun move => move.ofThread.toNat) (fun _ => 0)
    kept paid ⟨orderly, stopped⟩ ran
  rw [sum_toNat] at charged
  have last := execute_invariant kept ⟨orderly, stopped⟩ ran
  refine ⟨by simpa using charged, somebody_moves last.1, fun returned => ?_⟩
  have joined := last.1.joined
  unfold Joined at joined
  simpa only [returned] using joined

-- A worker waits for a packet and the accept thread for a client.
theorem disconnect_returns_idle :
    ∃ (service final : Service (Fin 1)) (moves : List (ServiceMove (Fin 1))),
      execute (step Server.oneSlot [0]) service moves = some final ∧ service.running = false ∧
      final.stop = .returned ∧ moves.countP ServiceMove.ofThread = 16 ∧
      final.workers 0 = .returned ∧ final.acceptor = .returned := by
  let moves : List (ServiceMove (Fin 1)) :=
    [.disconnect, .disconnect, .disconnect, .disconnect, .disconnect, .disconnect,
      .worker 0 none, .worker 0 none, .disconnect, .disconnect, .acceptor, .handler none true,
      .acceptor, .acceptor, .disconnect, .disconnect]
  obtain ⟨service, reached, seen⟩ := Reachable.observe (step Server.oneSlot [0])
    (start Server.oneSlot) [.worker 0 none, .acceptor, .disconnect, .disconnect]
    (fun service => service.running = false ∧
      (execute (step Server.oneSlot [0]) service moves).any fun final => final.stop = .returned)
    (by decide +kernel)
  obtain ⟨stopped, later⟩ := of_decide_eq_true seen
  obtain ⟨final, ran, returned⟩ := (Option.any_eq_true _ _).mp later
  have returned := of_decide_eq_true returned
  have ended := (disconnect_returns (by decide) reached stopped ran).2.2 returned
  exact ⟨service, final, moves, ran, stopped, returned, rfl, ended.1 0, ended.2⟩

end Service

end MiniGames
