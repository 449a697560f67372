import MiniGames.Process.GameThread
import MiniGames.Network.HandlerCosts

set_option autoImplicit false

namespace MiniGames

open Runs

-- The statements of GameLogicThread outside the handlers: `logic` is ProcessGameLogic and the
-- sleep. `_running` is tested once the event queue is empty, and not before.
inductive GameLogicPc where
  | test
  | popping
  | logic
  | returned
  deriving DecidableEq

inductive StopPc where
  | test
  | joining
  | returned
  deriving DecidableEq

structure GameService (Thread : Type) where
  process : GameProcess Thread
  running : Bool
  loop : GameLogicPc
  stop : StopPc

inductive GameMove (Thread : Type) where
  -- A statement of a handler, of the game thread's RequestSendMsg too, or what Winsock does.
  | network (turn : MiniGames.Turn Thread)
  | gameLogic (stale : Stale)
  | stop

namespace GameMove

variable {Thread : Type}

-- What the threads do themselves.
def statements : GameMove Thread → Nat
  | .network turn => turn.statements
  | .gameLogic _ => 1
  | .stop => 0

def charge : GameMove Thread → Nat
  | .network turn => 22 * turn.handlers + 9 * turn.moved
  | .gameLogic _ | .stop => 0

/-- The moves that do not wait for a network thread. -/
def own [DecidableEq Thread] (gameThread : Thread) : GameMove Thread → Bool
  | .network (.run thread _) => thread = some gameThread
  | .network _ => false
  | .gameLogic _ | .stop => true

end GameMove

namespace CCentralizedServer

theorem handleRequest_length (stale : Stale) (server : CCentralizedServer) (player : CPlayer)
    (data : List UInt8) : (handleRequest stale server player data).2.length ≤ 2 := by
  simp only [handleRequest]
  split
  · exact Nat.le_succ 1
  · rcases handleCreateRoom_cases stale server player data with
      ⟨_, _, handled⟩ | ⟨_, _, handled⟩
    · rw [handled, List.length_cons]
      split <;> simp
    · rw [handled]
      exact Nat.le_refl 2
  · rw [handleJoinRoom, List.length_cons]
    split <;> simp
  · exact Nat.le_succ 1
  · exact Nat.zero_le 2

theorem dispatch_length (stale : Stale) (server : CCentralizedServer) (event : NetworkEvent) :
    (dispatch stale server event).2.length ≤ 2 := by
  simp only [dispatch]
  split
  · exact Nat.le_succ 1
  · exact Nat.zero_le 2
  · simp only [dispatchDataReceived]
    split
    · exact Nat.zero_le 2
    · exact handleRequest_length ..

end CCentralizedServer

namespace GameService

variable (env : Environment) {Thread : Type} [DecidableEq Thread] (gameThread : Thread)

def start : GameService Thread :=
  { process := .start env
    running := true
    loop := .test
    stop := .test }

def act (service : GameService Thread) (action : GameAction Thread) :
    Option (GameService Thread) := do
  let process ← service.process.step env gameThread action
  pure { service with process := process }

def gameLogicThread (service : GameService Thread) (stale : Stale) :
    GameLogicPc → Option (GameService Thread)
  | .test => some { service with loop := if service.running then .popping else .returned }
  | .popping =>
      match service.process.sending with
      | _ :: _ => service.act env gameThread .requestSendMsg
      | [] =>
          match service.process.machine.server.eventQueue[service.process.popped.length]? with
          | some _ => service.act env gameThread (.popNetworkEvent stale)
          | none => do
              guard (service.process.machine.threads (some gameThread) = [])
              pure { service with loop := .logic }
  | .logic => some { service with loop := .test }
  | .returned => none

def stopThread (service : GameService Thread) : StopPc → Option (GameService Thread)
  | .test =>
      if service.running then some { service with running := false, stop := .joining }
      else some { service with stop := .returned }
  | .joining => do
      guard (service.loop = .returned)
      pure { service with stop := .returned }
  | .returned => none

def step (service : GameService Thread) : GameMove Thread → Option (GameService Thread)
  | .network turn => service.act env gameThread (.network turn)
  | .gameLogic stale => service.gameLogicThread env gameThread stale service.loop
  | .stop => service.stopThread service.stop

inductive Advances (env : Environment) (gameThread : Thread) (service : GameService Thread) :
    GameMove Thread → GameService Thread → Prop where
  | network (turn : MiniGames.Turn Thread) (machine : Machine Thread)
      (taken : service.process.machine.step env turn = some machine) :
      Advances env gameThread service (.network turn)
        { service with process := { service.process with machine := machine } }
  | test (stale : Stale) (at_loop : service.loop = .test) :
      Advances env gameThread service (.gameLogic stale)
        { service with loop := if service.running then .popping else .returned }
  | send (stale : Stale) (at_loop : service.loop = .popping) (recipient : SessionId)
      (message : ServerMessage) (rest : List Sent)
      (first : service.process.sending = (recipient, message) :: rest) (machine : Machine Thread)
      (taken : service.process.machine.step env
        (.requestSendMsg gameThread recipient (.ofBytes message.encode)) = some machine) :
      Advances env gameThread service (.gameLogic stale)
        { service with process := { service.process with machine := machine, sending := rest } }
  | pop (stale : Stale) (at_loop : service.loop = .popping) (event : NetworkEvent)
      (settled : service.process.sending = [])
      (found : service.process.machine.server.eventQueue[service.process.popped.length]? =
        some event) :
      Advances env gameThread service (.gameLogic stale) { service with
        process := { service.process with
          game := (CCentralizedServer.dispatch stale service.process.game event).1
          sending := (CCentralizedServer.dispatch stale service.process.game event).2
          popped := service.process.popped ++ [⟨event, stale⟩] } }
  | drained (stale : Stale) (at_loop : service.loop = .popping)
      (settled : service.process.sending = []) :
      Advances env gameThread service (.gameLogic stale) { service with loop := .logic }
  | logic (stale : Stale) (at_loop : service.loop = .logic) :
      Advances env gameThread service (.gameLogic stale) { service with loop := .test }
  | clear (at_stop : service.stop = .test) (running : service.running = true) :
      Advances env gameThread service .stop { service with running := false, stop := .joining }
  | leave (at_stop : service.stop = .test) (stopped : service.running = false) :
      Advances env gameThread service .stop { service with stop := .returned }
  | join (at_stop : service.stop = .joining) (ended : service.loop = .returned) :
      Advances env gameThread service .stop { service with stop := .returned }

variable {env gameThread} {service next : GameService Thread} {move : GameMove Thread}

theorem act_proceeds {action : GameAction Thread}
    (taken : service.act env gameThread action = some next) :
    ∃ process, next = { service with process := process } ∧
      GameProcess.Proceeds env gameThread service.process action process := by
  obtain ⟨process, moved, taken⟩ := Option.bind_eq_some_iff.mp taken
  cases taken
  exact ⟨process, rfl, GameProcess.step_proceeds moved⟩

theorem step_advances (taken : service.step env gameThread move = some next) :
    Advances env gameThread service move next := by
  cases move with
  | network turn =>
    obtain ⟨process, rfl, proceeds⟩ := act_proceeds taken
    cases proceeds with
    | network _ machine moved => exact .network turn machine moved
  | gameLogic stale =>
    simp only [step] at taken
    cases at_loop : service.loop with
    | test =>
      rw [at_loop] at taken
      cases taken
      exact .test stale at_loop
    | popping =>
      simp only [at_loop, gameLogicThread] at taken
      split at taken
      · obtain ⟨process, rfl, proceeds⟩ := act_proceeds taken
        cases proceeds with
        | send recipient message rest first machine moved =>
          exact .send stale at_loop recipient message rest first machine moved
      · next settled =>
        split at taken
        · obtain ⟨process, rfl, proceeds⟩ := act_proceeds taken
          cases proceeds with
          | pop _ event _ found => exact .pop stale at_loop event settled found
        · obtain ⟨_, _, taken⟩ := Option.bind_eq_some_iff.mp taken
          cases taken
          exact .drained stale at_loop settled
    | logic =>
      rw [at_loop] at taken
      cases taken
      exact .logic stale at_loop
    | returned =>
      rw [at_loop] at taken
      cases taken
  | stop =>
    simp only [step] at taken
    cases at_stop : service.stop with
    | test =>
      simp only [at_stop, stopThread] at taken
      split at taken
      · next running =>
        cases taken
        exact .clear at_stop running
      · next stopped =>
        cases taken
        exact .leave at_stop (by simpa using stopped)
    | joining =>
      rw [at_stop] at taken
      obtain ⟨_, ended, taken⟩ := Option.bind_eq_some_iff.mp taken
      cases taken
      exact .join at_stop ((Option.guard_eq_some' _).mp ended)
    | returned =>
      rw [at_stop] at taken
      cases taken

def queued (service : GameService Thread) : Nat :=
  service.process.machine.server.eventQueue.length

structure Orderly (service : GameService Thread) : Prop where
  rings : service.process.machine.server.Every Rings
  behind : service.process.popped.length ≤ service.queued
  running : service.running = true ↔ service.stop = .test
  joined : service.stop = .returned → service.loop = .returned

omit [DecidableEq Thread] in
theorem start_orderly : (start env : GameService Thread).Orderly where
  rings index := Rings.constructed (env.recvMemory index) (env.sendMemory index)
  behind := Nat.zero_le _
  running := iff_of_true rfl rfl
  joined returned := by cases returned

theorem machine_orderly (mode : env.architectureType = .centralized) (orderly : service.Orderly)
    {turn : MiniGames.Turn Thread} {machine : Machine Thread}
    (taken : service.process.machine.step env turn = some machine) :
    machine.server.Every Rings ∧ service.queued ≤ machine.server.eventQueue.length :=
  ⟨(Machine.step_moves taken).rings orderly.rings,
    (GameProcess.moves_events mode (Machine.step_moves taken)).length_le⟩

theorem Orderly.advances (mode : env.architectureType = .centralized) (orderly : service.Orderly)
    (advances : Advances env gameThread service move next) :
    next.Orderly ∧ service.queued ≤ next.queued := by
  cases advances with
  | network turn machine taken =>
    obtain ⟨rings, grows⟩ := machine_orderly mode orderly taken
    exact ⟨⟨rings, orderly.behind.trans grows, orderly.running, orderly.joined⟩, grows⟩
  | test stale at_loop =>
    refine ⟨⟨orderly.rings, orderly.behind, orderly.running, fun returned => ?_⟩, Nat.le_refl _⟩
    have ended := orderly.joined returned
    rw [at_loop] at ended
    cases ended
  | send stale at_loop recipient message rest first machine taken =>
    obtain ⟨rings, grows⟩ := machine_orderly mode orderly taken
    exact ⟨⟨rings, orderly.behind.trans grows, orderly.running, orderly.joined⟩, grows⟩
  | pop stale at_loop event settled found =>
    obtain ⟨inside, _⟩ := List.getElem?_eq_some_iff.mp found
    refine ⟨⟨orderly.rings, ?_, orderly.running, orderly.joined⟩, Nat.le_refl _⟩
    rw [List.length_append]
    exact inside
  | drained stale at_loop | logic stale at_loop =>
    refine ⟨⟨orderly.rings, orderly.behind, orderly.running, fun returned => ?_⟩, Nat.le_refl _⟩
    have ended := orderly.joined returned
    rw [at_loop] at ended
    cases ended
  | clear =>
    exact ⟨⟨orderly.rings, orderly.behind, by simp, fun returned => by cases returned⟩,
      Nat.le_refl _⟩
  | leave at_stop stopped =>
    rw [orderly.running.mpr at_stop] at stopped
    cases stopped
  | join at_stop ended =>
    have stopped := orderly.running
    rw [at_stop] at stopped
    exact ⟨⟨orderly.rings, orderly.behind, by simpa using stopped, fun _ => ended⟩, Nat.le_refl _⟩

theorem advances_stopped (stopped : service.running = false)
    (advances : Advances env gameThread service move next) : next.running = false := by
  cases advances with
  | clear => rfl
  | _ => exact stopped

section Remaining

variable [Fintype Thread]

-- A call of RequestSendMsg is a statement and 22 of its handler; an event has two at most.
def loopWeight (service : GameService Thread) : Nat :=
  match service.loop with
  | .test => 1
  | .popping => 47 * (service.queued - service.process.popped.length) +
      23 * service.process.sending.length + 3
  | .logic => 2
  | .returned => 0

def remaining (service : GameService Thread) : Nat :=
  service.process.machine.weight + service.loopWeight

theorem advances_remaining (mode : env.architectureType = .centralized) (orderly : service.Orderly)
    (stopped : service.running = false)
    (advances : Advances env gameThread service move next) :
    move.statements + next.remaining + 47 * service.queued ≤
      service.remaining + move.charge + 47 * next.queued := by
  have behind := orderly.behind
  cases advances with
  | network turn machine taken =>
    have paid := Machine.moves_paid orderly.rings (Machine.step_moves taken)
    have grows := (machine_orderly mode orderly taken).2
    simp only [remaining, loopWeight, GameMove.statements, GameMove.charge, queued] at *
    cases service.loop <;> simp only <;> omega
  | test stale at_loop =>
    simp only [remaining, loopWeight, at_loop, stopped, GameMove.statements, GameMove.charge,
      queued, Bool.false_eq_true, if_false]
    omega
  | send stale at_loop recipient message rest first machine taken =>
    have paid := Machine.moves_paid orderly.rings (Machine.step_moves taken)
    have grows := (machine_orderly mode orderly taken).2
    simp only [remaining, loopWeight, at_loop, first, GameMove.statements, GameMove.charge, queued,
      Turn.statements, Turn.handlers, Turn.moved, List.length_cons] at *
    omega
  | pop stale at_loop event settled found =>
    obtain ⟨inside, _⟩ := List.getElem?_eq_some_iff.mp found
    have short := CCentralizedServer.dispatch_length stale service.process.game event
    simp only [remaining, loopWeight, at_loop, settled, GameMove.statements, GameMove.charge,
      queued, List.length_append, List.length_singleton, List.length_nil] at *
    omega
  | drained stale at_loop settled | logic stale at_loop =>
    simp only [remaining, loopWeight, at_loop, GameMove.statements, GameMove.charge, queued]
    omega
  | clear at_stop running =>
    rw [stopped] at running
    cases running
  | leave | join =>
    simp only [remaining, loopWeight, GameMove.statements, GameMove.charge, queued]
    omega

end Remaining

theorem act_isSome {action : GameAction Thread}
    (can : (service.process.step env gameThread action).isSome) :
    (service.act env gameThread action).isSome := by
  obtain ⟨process, taken⟩ := Option.isSome_iff_exists.mp can
  simp [act, taken]

theorem gameLogic_moves (idle : service.process.machine.threads (some gameThread) = [])
    (working : service.loop ≠ .returned) (stale : Stale) :
    (service.step env gameThread (.gameLogic stale)).isSome := by
  simp only [step]
  cases at_loop : service.loop with
  | test | logic => rfl
  | returned => exact absurd at_loop working
  | popping =>
    simp only [gameLogicThread]
    split
    · next first =>
      apply act_isSome
      simp [GameProcess.step, first, Machine.step, Machine.begin, idle]
    · next settled =>
      split
      · next found =>
        apply act_isSome
        simp [GameProcess.step, settled, idle, found]
      · simp [idle]

theorem Orderly.moves (orderly : service.Orderly) (stopped : service.running = false)
    (unfinished : service.stop ≠ .returned) :
    ∃ move : GameMove Thread, move.own gameThread = true ∧
      (service.step env gameThread move).isSome := by
  by_cases ended : service.loop = .returned
  · refine ⟨.stop, rfl, ?_⟩
    cases at_stop : service.stop with
    | test =>
      have running := orderly.running.mpr at_stop
      rw [stopped] at running
      cases running
    | joining => simp [step, stopThread, at_stop, ended]
    | returned => exact absurd at_stop unfinished
  · cases busy : service.process.machine.threads (some gameThread) with
    | nil => exact ⟨.gameLogic (.zeros 256), rfl, gameLogic_moves busy ended _⟩
    | cons frame rest =>
      refine ⟨.network (.run (some gameThread) true), by simp [GameMove.own], ?_⟩
      apply act_isSome
      simp [GameProcess.step, GameProcess.permits, Machine.step, busy]

/-- Once Stop has cleared `_running`, the threads have only so many statements left for each event
that is queued or pushed later, Stop or the game thread can move until Stop returns, and by then
the game thread has returned. -/
theorem stop_returns [Fintype Thread] (mode : env.architectureType = .centralized)
    (reached : Reachable (step env gameThread) Always (start env) service)
    (stopped : service.running = false) {moves : List (GameMove Thread)}
    {final : GameService Thread} (ran : execute (step env gameThread) service moves = some final) :
    (moves.map GameMove.statements).sum + final.remaining + 47 * service.queued ≤
        service.remaining + (moves.map GameMove.charge).sum + 47 * final.queued ∧
      (final.stop ≠ .returned → ∃ move : GameMove Thread, move.own gameThread = true ∧
        (final.step env gameThread move).isSome) ∧
      (final.stop = .returned → final.loop = .returned) := by
  have orderly : service.Orderly := reached.invariant start_orderly fun _ _ _ orderly _ taken =>
    (orderly.advances mode (step_advances taken)).1
  have kept (service : GameService Thread) (move : GameMove Thread) (next : GameService Thread)
      (holds : service.Orderly ∧ service.running = false)
      (taken : service.step env gameThread move = some next) :
      next.Orderly ∧ next.running = false :=
    ⟨(holds.1.advances mode (step_advances taken)).1,
      advances_stopped holds.2 (step_advances taken)⟩
  have gains := execute_gains remaining (fun service => 47 * service.queued) GameMove.statements
    GameMove.charge kept
    (fun service move next holds taken =>
      advances_remaining mode holds.1 holds.2 (step_advances taken)) ⟨orderly, stopped⟩ ran
  have last := execute_invariant kept ⟨orderly, stopped⟩ ran
  exact ⟨gains, last.1.moves last.2, last.1.joined⟩

-- The game thread finds a CONNECTED that was pushed after Stop had cleared `_running`.
theorem stop_returns_late_event : ∃ (service final : GameService (Fin 2))
    (moves : List (GameMove (Fin 2))),
      execute (step Server.oneSlot (1 : Fin 2)) service moves = some final ∧
      service.running = false ∧ service.queued = 0 ∧ final.queued = 1 ∧
      final.stop = .returned ∧ final.loop = .returned := by
  let stale : Stale := .zeros 256
  let accepted : List (GameMove (Fin 2)) :=
    .network .accept :: List.replicate 13 (.network (.run none true))
  let schedule : List (List (GameMove (Fin 2))) :=
    [accepted, [.gameLogic stale, .gameLogic stale],
      List.replicate 7 (.network (.run (some 1) true)),
      [.gameLogic stale, .gameLogic stale, .gameLogic stale, .stop]]
  obtain ⟨service, reached, seen⟩ := Reachable.observe (step Server.oneSlot (1 : Fin 2))
    (start Server.oneSlot) [.gameLogic stale, .stop]
    (fun service => service.running = false ∧ service.queued = 0 ∧
      (execute (step Server.oneSlot 1) service schedule.flatten).any fun final =>
        final.queued = 1 ∧ final.stop = .returned)
    (by decide +kernel)
  obtain ⟨stopped, none, later⟩ := of_decide_eq_true seen
  obtain ⟨final, ran, returned⟩ := (Option.any_eq_true _ _).mp later
  obtain ⟨one, returned⟩ := of_decide_eq_true returned
  exact ⟨service, final, _, ran, stopped, none, one, returned,
    (stop_returns rfl reached stopped ran).2.2 returned⟩

end GameService

end MiniGames
