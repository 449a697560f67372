import MiniGames.Network.EventOrder
import MiniGames.Rooms.GameRuns

set_option autoImplicit false

namespace MiniGames

open Circular Runs Logs

structure GameProcess (Thread : Type) where
  machine : Machine Thread
  game : CCentralizedServer
  -- The calls of RequestSendMsg that the game thread has yet to make for the event it handles.
  sending : List Sent
  -- Not in the source: the events popped so far, and what the buffers held when they were handled.
  popped : List CCentralizedServer.Input

inductive GameAction (Thread : Type) where
  | network (turn : Turn Thread)
  | popNetworkEvent (stale : Stale)
  | requestSendMsg

namespace GameProcess

open CCentralizedServer (Input connections present)

variable (env : Environment) {Thread : Type} [DecidableEq Thread] (gameThread : Thread)

def start : GameProcess Thread :=
  { machine := .start env
    game := .new
    sending := []
    popped := [] }

/-- The game thread handles no completions, and no other thread makes the game layer's calls. -/
def permits : Turn Thread → Bool
  | .requestSendMsg _ _ _ | .requestDisconnectSession _ _ => false
  | .worker thread _ => thread ≠ gameThread
  | _ => true

def step (process : GameProcess Thread) : GameAction Thread → Option (GameProcess Thread)
  | .network turn => do
      guard (permits gameThread turn = true)
      let machine ← process.machine.step env turn
      pure { process with machine := machine }
  | .popNetworkEvent stale =>
      match process.sending with
      | [] => do
          guard (process.machine.threads (some gameThread) = [])
          let event ← process.machine.server.eventQueue[process.popped.length]?
          let handled := CCentralizedServer.dispatch stale process.game event
          pure { process with
            game := handled.1
            sending := handled.2
            popped := process.popped ++ [⟨event, stale⟩] }
      | _ => none
  | .requestSendMsg =>
      match process.sending with
      | (recipient, message) :: rest => do
          let machine ← process.machine.step env
            (.requestSendMsg gameThread recipient (.ofBytes message.encode))
          pure { process with
            machine := machine
            sending := rest }
      | [] => none

def Permitted (process : GameProcess Thread) : GameAction Thread → Prop
  | .network turn => Machine.Guarded Machine.Sequenced process.machine turn
  | _ => True

instance [Fintype Thread] (process : GameProcess Thread) (action : GameAction Thread) :
    Decidable (process.Permitted action) :=
  match action with
  | .network turn => inferInstanceAs (Decidable (Machine.Guarded _ process.machine turn))
  | .popNetworkEvent _ | .requestSendMsg => inferInstanceAs (Decidable True)

variable {env gameThread}

section Timely

variable {inputs : List Input} {input : Input}

def events (inputs : List Input) : List NetworkEvent := inputs.map Input.event

theorem events_append : events (inputs ++ [input]) = events inputs ++ [input.event] := by
  simp [events]

theorem connections_timely (timely : Ordered Timely (events inputs)) (sessionId : SessionId) :
    connections sessionId inputs ≤ 1 := by
  induction inputs using List.reverseRecOn with
  | nil => exact Nat.zero_le _
  | append_singleton inputs input ih =>
    rw [events_append] at timely
    obtain ⟨before, fits⟩ := timely.of_append
    rw [CCentralizedServer.connections_append]
    by_cases connects : input.event.type = .connected ∧ input.event.sessionId = sessionId
    · have none : connections sessionId inputs = 0 := by
        simp only [Timely, connects.1] at fits
        refine List.countP_eq_zero.mpr fun earlier member => ?_
        have differs := fits earlier.event (List.mem_map_of_mem member)
        rw [connects.2] at differs
        simp [differs]
      rw [none, Nat.zero_add]
      exact List.countP_le_length
    · have none : connections sessionId [input] = 0 := by simp [connections, connects]
      rw [none]
      exact ih before

theorem present_timely (timely : Ordered Timely (events inputs))
    (plain : ∀ event ∈ events inputs, event.type ≠ .received → event.data = [])
    (sessionId : SessionId) : present sessionId inputs = true ↔
      ⟨.connected, sessionId, []⟩ ∈ events inputs ∧
        ⟨.disconnected, sessionId, []⟩ ∉ events inputs := by
  induction inputs using List.reverseRecOn with
  | nil => simp [present, events]
  | append_singleton inputs input ih =>
    rw [events_append] at timely plain ⊢
    obtain ⟨before, fits⟩ := timely.of_append
    have known := ih before fun event member => plain event (List.mem_append_left _ member)
    have bare := plain input.event (List.mem_append_right _ List.mem_cons_self)
    obtain ⟨⟨type, own, data⟩, stale⟩ := input
    simp only [present, List.foldl_append, List.foldl_cons, List.foldl_nil] at known ⊢
    by_cases same : own = sessionId
    · subst same
      cases type with
      | connected =>
        obtain rfl : data = [] := bare (by simp)
        have none : ∀ event ∈ events inputs, event.sessionId ≠ own := fits
        have absent : ⟨.disconnected, own, []⟩ ∉ events inputs := fun member =>
          none _ member rfl
        simp [absent]
      | disconnected =>
        obtain rfl : data = [] := bare (by simp)
        simp
      | received => simp [known]
    · have differs : sessionId ≠ own := Ne.symm same
      simp [same, differs, known]

end Timely

theorem moves_events {machine next : Machine Thread} {action : Turn Thread}
    (mode : env.architectureType = .centralized) (moves : Machine.Moves env machine action next) :
    machine.server.eventQueue <+: next.server.eventQueue := by
  cases moves with
  | run thread bound frame rest top =>
    have pushed := (Frame.turn_counters env machine.server frame bound).2.2 mode
    exact ⟨_, pushed.symm⟩
  | _ => exact List.prefix_refl _

theorem prefix_next {α : Type*} {first log : List α} {entry : α} (inside : first <+: log)
    (next : log[first.length]? = some entry) : first ++ [entry] <+: log := by
  obtain ⟨rest, rfl⟩ := inside
  rw [List.getElem?_append_right (Nat.le_refl _), Nat.sub_self] at next
  cases rest with
  | nil => cases next
  | cons head tail =>
    cases next
    exact ⟨tail, by simp⟩

structure Follows (process : GameProcess Thread) : Prop where
  popped : events process.popped <+: process.machine.server.eventQueue
  game : process.game = CCentralizedServer.after process.popped

variable {process next : GameProcess Thread}

inductive Proceeds (env : Environment) (gameThread : Thread) (process : GameProcess Thread) :
    GameAction Thread → GameProcess Thread → Prop where
  | network (turn : Turn Thread) (machine : Machine Thread)
      (taken : process.machine.step env turn = some machine) :
      Proceeds env gameThread process (.network turn) { process with machine := machine }
  | pop (stale : Stale) (event : NetworkEvent) (settled : process.sending = [])
      (found : process.machine.server.eventQueue[process.popped.length]? = some event) :
      Proceeds env gameThread process (.popNetworkEvent stale) { process with
        game := (CCentralizedServer.dispatch stale process.game event).1
        sending := (CCentralizedServer.dispatch stale process.game event).2
        popped := process.popped ++ [⟨event, stale⟩] }
  | send (recipient : SessionId) (message : ServerMessage) (rest : List Sent)
      (first : process.sending = (recipient, message) :: rest) (machine : Machine Thread)
      (taken : process.machine.step env
        (.requestSendMsg gameThread recipient (.ofBytes message.encode)) = some machine) :
      Proceeds env gameThread process .requestSendMsg { process with
        machine := machine
        sending := rest }

theorem step_proceeds {action : GameAction Thread}
    (taken : process.step env gameThread action = some next) :
    Proceeds env gameThread process action next := by
  cases action with
  | network turn =>
    obtain ⟨_, _, taken⟩ := Option.bind_eq_some_iff.mp taken
    obtain ⟨machine, moved, taken⟩ := Option.bind_eq_some_iff.mp taken
    cases taken
    exact .network turn machine moved
  | popNetworkEvent stale =>
    simp only [step] at taken
    split at taken
    · next settled =>
      obtain ⟨_, _, taken⟩ := Option.bind_eq_some_iff.mp taken
      obtain ⟨event, found, taken⟩ := Option.bind_eq_some_iff.mp taken
      cases taken
      exact .pop stale event settled found
    · cases taken
  | requestSendMsg =>
    simp only [step] at taken
    split at taken
    · next recipient message rest first =>
      obtain ⟨machine, moved, taken⟩ := Option.bind_eq_some_iff.mp taken
      cases taken
      exact .send recipient message rest first machine moved
    · cases taken

theorem reachable_machine
    (reached : Reachable (step env gameThread) Permitted (start env) process) :
    Reachable (Machine.step env) (Machine.Guarded Machine.Sequenced) (.start env)
      process.machine := by
  induction reached with
  | start => exact .start
  | step _ permitted taken ih =>
    cases step_proceeds taken with
    | network turn machine moved => exact .step ih permitted moved
    | pop => exact ih
    | send recipient message rest first machine moved =>
      refine .step ih ?_ moved
      trivial

theorem reachable_follows (mode : env.architectureType = .centralized)
    (reached : Reachable (step env gameThread) Permitted (start env) process) :
    Follows process := by
  induction reached with
  | start => exact ⟨List.nil_prefix, rfl⟩
  | step _ _ taken ih =>
    cases step_proceeds taken with
    | network turn machine moved =>
      exact ⟨ih.popped.trans (moves_events mode (Machine.step_moves moved)), ih.game⟩
    | pop stale event settled found =>
      constructor
      · rw [events_append]
        exact prefix_next ih.popped (by simpa [events] using found)
      · rw [CCentralizedServer.after_append, ← ih.game]
    | send recipient message rest first machine moved =>
      exact ⟨ih.popped.trans (moves_events mode (Machine.step_moves moved)), ih.game⟩

theorem ordered_takes {α : Type*} {fits : List α → α → Prop} {log first : List α}
    (ordered : Ordered fits log) (inside : first <+: log) : Ordered fits first := by
  obtain ⟨rest, rfl⟩ := inside
  intro earlier entry later split
  exact ordered earlier entry (later ++ rest) (by rw [split, List.append_assoc, List.cons_append])

structure Informed (process : GameProcess Thread) : Prop where
  game : process.game = CCentralizedServer.after process.popped
  -- Who is in a room, or owns it, is a player of the game thread.
  members : ∀ room ∈ process.game.roomManager.listed, ∀ player,
    player ∈ room.players ∨ room.owner = some player →
      process.game.getPlayer player.sessionId = some player
  -- The next event is of a known player, unless it is the first one of its session.
  next : ∀ event, process.machine.server.eventQueue[process.popped.length]? = some event →
    ((process.game.getPlayer event.sessionId).isSome = true ↔ event.type ≠ .connected)
  -- With all events handled and no disconnect under way, the players are the announced sessions
  -- that were not disconnected.
  players : process.popped.length = process.machine.server.eventQueue.length →
    (∀ thread index pc cleared, .disconnect index pc cleared ∉ process.machine.threads thread) →
    ∀ sessionId, (process.game.getPlayer sessionId).isSome = true ↔
      ⟨.connected, sessionId, []⟩ ∈ process.machine.server.eventQueue ∧
        sessionId ∉ process.machine.history.cleared

omit [DecidableEq Thread] in
theorem debts_count {machine : Machine Thread} (accounts : Machine.Accounts machine)
    {sessionId : SessionId} (real : extractUniqueId sessionId ≠ 0) :
    machine.server.eventQueue.count ⟨.disconnected, sessionId, []⟩ ≤ 1 ∧
      (⟨.disconnected, sessionId, []⟩ ∈ machine.server.eventQueue →
        sessionId ∈ machine.history.cleared) := by
  obtain ⟨placement, placed, known⟩ := accounts.debts sessionId real
  refine ⟨placed.jobs_le_one, fun member => known.mpr ?_⟩
  rintro rfl
  exact absurd placed.1 (Nat.ne_of_gt (List.count_pos_iff.mpr member))

omit [DecidableEq Thread] in
theorem present_next {machine : Machine Thread} {inputs : List Input} {event : NetworkEvent}
    (announced : Machine.Announced machine) (accounts : Machine.Accounts machine)
    (popped : events inputs ++ [event] <+: machine.server.eventQueue) :
    present event.sessionId inputs = true ↔ event.type ≠ .connected := by
  have member : event ∈ machine.server.eventQueue := popped.subset (by simp)
  have real := (announced.known event member).1
  obtain ⟨timely, fits⟩ := (ordered_takes announced.timely popped).of_append
  have bare := announced.plain event member
  have known := present_timely timely (fun earlier inside => announced.plain earlier
    (popped.subset (List.mem_append_left _ inside))) event.sessionId
  rw [known]
  obtain ⟨type, sessionId, data⟩ := event
  cases type with
  | connected =>
    have none : ∀ before ∈ events inputs, before.sessionId ≠ sessionId := fits
    simp only [ne_eq, not_true, iff_false, not_and]
    exact fun inside => absurd rfl (none _ inside)
  | disconnected =>
    obtain rfl : data = [] := bare (by simp)
    have opened : ⟨.connected, sessionId, []⟩ ∈ events inputs := fits
    have once : machine.server.eventQueue.count ⟨.disconnected, sessionId, []⟩ ≤ 1 :=
      (debts_count accounts real).1
    have counted := popped.sublist.count_le ⟨.disconnected, sessionId, []⟩
    have fresh : ⟨.disconnected, sessionId, []⟩ ∉ events inputs := fun inside => by
      have before := List.count_pos_iff.mpr inside
      simp only [List.count_append, List.count_singleton_self] at counted
      omega
    simp [opened, fresh]
  | received =>
    obtain ⟨opened, before⟩ : (⟨.connected, sessionId, []⟩ : NetworkEvent) ∈ events inputs ∧
        ∀ earlier ∈ events inputs, earlier.type = .disconnected →
          earlier.sessionId ≠ sessionId := fits
    have fresh : ⟨.disconnected, sessionId, []⟩ ∉ events inputs := fun inside =>
      before _ inside rfl rfl
    simp [opened, fresh]

/-- The game thread's players are those of the sessions, in every order of the statements. -/
theorem players_follow_sessions (mode : env.architectureType = .centralized)
    (reached : Reachable (step env gameThread) Permitted (start env) process)
    (few : process.game.roomManager.allocated < 2 ^ 31) : Informed process := by
  have follows := reachable_follows mode reached
  have network := reachable_machine reached
  have accounts := (Machine.reachable_settled mode network).accounts
  have announced := Machine.reachable_announced mode network
  have timely := ordered_takes announced.timely follows.popped
  have few : (CCentralizedServer.after process.popped).roomManager.allocated < 2 ^ 31 := by
    rwa [← follows.game]
  obtain ⟨populated, present⟩ :=
    CCentralizedServer.after_populated process.popped (connections_timely timely) few
  rw [← follows.game] at populated present
  constructor
  case game => exact follows.game
  case members =>
    intro room member player inside
    have consistent := populated.consistent
    have seated : player ∈ room.players :=
      inside.elim id ((consistent.listed_sound member).owned player)
    obtain ⟨ptr, listed, rfl⟩ := List.mem_map.mp member
    exact populated.known player _ ((consistent.placed player _).mpr ⟨ptr, listed, rfl, seated⟩)
  case next =>
    intro event found
    rw [present]
    exact present_next announced accounts
      (prefix_next follows.popped (by simpa [events] using found))
  case players =>
    intro all returned sessionId
    have same : events process.popped = process.machine.server.eventQueue :=
      follows.popped.eq_of_length (by simpa [events] using all)
    rw [present, present_timely timely (by rw [same]; exact announced.plain), same]
    refine and_congr_right fun opened => not_congr ⟨?_, fun member => ?_⟩
    · exact (debts_count accounts (announced.known _ opened).1).2
    · have once := accounts.accounted.disconnected returned sessionId member
        (announced.known _ opened).1
      exact List.count_pos_iff.mp (by omega)

-- The first client has come and gone, and its slot is the second one's.
theorem players_follow_sessions_two_clients : ∃ process : GameProcess (Fin 2),
    Informed process ∧ process.game.getPlayer 1 = none ∧
      (process.game.getPlayer 2).isSome = true ∧ process.machine.history.cleared = [1] := by
  let stale : Stale := .zeros 256
  let accepted : List (GameAction (Fin 2)) := Machine.acceptClient.map .network
  let schedule : List (List (GameAction (Fin 2))) :=
    [[.network .accept, .network (.run none true)], accepted,
      [.popNetworkEvent stale, .requestSendMsg], List.replicate 7 (.network (.run (some 1) true)),
      [.network (.fail 0), .network (.worker 0 0)],
      List.replicate 7 (.network (.run (some 0) true)), [.popNetworkEvent stale],
      .network .accept :: List.replicate 3 (.network (.run none true)), accepted,
      [.popNetworkEvent stale]]
  obtain ⟨process, reached, seen⟩ := Reachable.observe
    (restrict (step Server.oneSlot (1 : Fin 2)) Permitted) (start Server.oneSlot)
    schedule.flatten
    (fun process => process.game.roomManager.allocated < 2 ^ 31 ∧
      process.game.getPlayer 1 = none ∧ (process.game.getPlayer 2).isSome = true ∧
      process.machine.history.cleared = [1])
    (by decide +kernel)
  obtain ⟨few, gone, here, cleared⟩ := of_decide_eq_true seen
  exact ⟨process, players_follow_sessions rfl reached.unrestrict few, gone, here, cleared⟩

end GameProcess

end MiniGames
