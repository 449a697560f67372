import MiniGames.Rooms.Population
import MiniGames.Rooms.RegistryRuns

set_option autoImplicit false

namespace MiniGames.CCentralizedServer

structure Input where
  event : NetworkEvent
  stale : Stale

-- The state after a sequence of events.
def after (inputs : List Input) : CCentralizedServer :=
  inputs.foldl (fun server input => (dispatch input.stale server input.event).1) new

def connections (sessionId : SessionId) (inputs : List Input) : Nat :=
  inputs.countP fun input =>
    input.event.type = .connected ∧ input.event.sessionId = sessionId

-- Whether the last CONNECTED or DISCONNECTED of a session id is a CONNECTED.
def present (sessionId : SessionId) (inputs : List Input) : Bool :=
  inputs.foldl (fun before input =>
    if input.event.sessionId = sessionId then
      match input.event.type with
      | .connected => true
      | .disconnected => false
      | .received => before
    else before) false

theorem connections_append (sessionId : SessionId) (inputs more : List Input) :
    connections sessionId (inputs ++ more) =
      connections sessionId inputs + connections sessionId more :=
  List.countP_append

theorem after_append (inputs : List Input) (input : Input) :
    after (inputs ++ [input]) = (dispatch input.stale (after inputs) input.event).1 := by
  simp [after]

theorem after_allocated_le (inputs : List Input) (input : Input) :
    (after inputs).roomManager.allocated ≤ (after (inputs ++ [input])).roomManager.allocated := by
  rw [after_append]
  exact (dispatch_turn input.stale (after inputs) input.event).allocated_le

theorem after_consistent (inputs : List Input)
    (few : (after inputs).roomManager.allocated < 2 ^ 31) :
    (after inputs).roomManager.Consistent := by
  induction inputs using List.reverseRecOn with
  | nil => exact CRoomManager.new_consistent
  | append_singleton inputs input ih =>
    have before := ih (Nat.lt_of_le_of_lt (after_allocated_le inputs input) few)
    rw [after_append] at few ⊢
    exact (dispatch_turn input.stale (after inputs) input.event).consistent before few

theorem present_connections (sessionId : SessionId) (inputs : List Input)
    (here : present sessionId inputs = true) : 0 < connections sessionId inputs := by
  induction inputs using List.reverseRecOn with
  | nil => cases here
  | append_singleton inputs input ih =>
    simp only [present, List.foldl_append, List.foldl_cons, List.foldl_nil] at here
    rw [connections_append]
    split at here
    · next same =>
      split at here
      · next connected =>
        simp [connections, same, connected]
      · cases here
      · exact Nat.add_pos_left (ih here) _
    · exact Nat.add_pos_left (ih here) _

theorem after_populated (inputs : List Input)
    (once : ∀ sessionId, connections sessionId inputs ≤ 1)
    (few : (after inputs).roomManager.allocated < 2 ^ 31) :
    (after inputs).Populated ∧
      ∀ sessionId, ((after inputs).getPlayer sessionId).isSome = present sessionId inputs := by
  induction inputs using List.reverseRecOn with
  | nil => exact ⟨new_populated, fun _ => rfl⟩
  | append_singleton inputs input ih =>
    have earlier (sessionId : SessionId) : connections sessionId inputs ≤ 1 := by
      have total := once sessionId
      rw [connections_append] at total
      omega
    obtain ⟨populated, known⟩ :=
      ih earlier (Nat.lt_of_le_of_lt (after_allocated_le inputs input) few)
    have fresh (connected : input.event.type = .connected) :
        (after inputs).getPlayer input.event.sessionId = none := by
      cases found : (after inputs).getPlayer input.event.sessionId with
      | none => rfl
      | some player =>
        have here := known input.event.sessionId
        rw [found] at here
        have before := present_connections _ _ here.symm
        have total := once input.event.sessionId
        have again : connections input.event.sessionId [input] = 1 := by
          simp [connections, connected]
        rw [connections_append, again] at total
        omega
    have turn := dispatch_turn input.stale (after inputs) input.event
    rw [after_append] at few ⊢
    apply And.intro (populated.turn turn fresh few)
    intro sessionId
    have known := known sessionId
    simp only [present, List.foldl_append, List.foldl_cons, List.foldl_nil] at known ⊢
    rw [← known]
    generalize (dispatch input.stale (after inputs) input.event).1 = next at turn
    cases turn with
    | connect connected =>
      rw [connected_getPlayer, connected]
      by_cases same : sessionId = input.event.sessionId
      · simp [same]
      · simp [same, Ne.symm same]
    | ignore gone unknown =>
      rw [gone]
      split
      · next same => rw [← same, unknown]; rfl
      · rfl
    | disconnect gone found =>
      rw [removePlayer_getPlayer, gone]
      by_cases same : sessionId = input.event.sessionId
      · simp [same]
      · simp [same, Ne.symm same]
    | idle received | create received | join received | leave received =>
      rw [received]
      simp

theorem dispatch_disconnected (stale : Stale) {server : CCentralizedServer} {event : NetworkEvent}
    {player : CPlayer} (gone : event.type = .disconnected)
    (found : server.getPlayer event.sessionId = some player) :
    (dispatch stale server event).1 =
      (server.withRooms (server.roomManager.leaveRoom (some player)).1).removePlayer
        event.sessionId := by
  simp only [dispatch, gone, dispatchClientDisconnected, found]
  rfl

/-- The rooms hold connected players only, and a DISCONNECTED takes its player out of them. -/
structure NoGhosts (inputs : List Input) : Prop where
  keys : ∀ sessionId, ((after inputs).getPlayer sessionId).isSome = present sessionId inputs
  ownId : ∀ sessionId player, (after inputs).getPlayer sessionId = some player →
    player.sessionId = sessionId
  members : ∀ room ∈ (after inputs).roomManager.listed, ∀ player,
    player ∈ room.players ∨ room.owner = some player →
      (after inputs).getPlayer player.sessionId = some player
  placed : ∀ player roomId, (after inputs).roomManager.playerToRoomMap.lookup player = some roomId →
    (after inputs).getPlayer player.sessionId = some player
  removed : ∀ stale event player, event.type = .disconnected →
    (after inputs).getPlayer event.sessionId = some player →
      ∀ other, (dispatch stale (after inputs) event).1.getPlayer other =
        if other = event.sessionId then none else (after inputs).getPlayer other
  left : ∀ stale event player roomId, event.type = .disconnected →
    (after inputs).getPlayer event.sessionId = some player →
    (after inputs).roomManager.playerToRoomMap.lookup player = some roomId →
      (after inputs).roomManager.HasLeft (dispatch stale (after inputs) event).1.roomManager
        player roomId

theorem no_ghosts (inputs : List Input) (once : ∀ sessionId, connections sessionId inputs ≤ 1)
    (few : (after inputs).roomManager.allocated < 2 ^ 31) : NoGhosts inputs := by
  obtain ⟨populated, known⟩ := after_populated inputs once few
  have consistent := populated.consistent
  constructor
  case keys => exact known
  case ownId => exact populated.ownId
  case members =>
    intro room member player inside
    have seated : player ∈ room.players :=
      inside.elim id ((consistent.listed_sound member).owned player)
    obtain ⟨ptr, listed, rfl⟩ := List.mem_map.mp member
    exact populated.known player _ ((consistent.placed player _).mpr ⟨ptr, listed, rfl, seated⟩)
  case placed => exact populated.known
  case removed =>
    intro stale event player gone found other
    rw [dispatch_disconnected stale gone found]
    exact removePlayer_getPlayer ..
  case left =>
    intro stale event player roomId gone found placed
    rw [dispatch_disconnected stale gone found]
    exact consistent.hasLeft placed

-- A player makes a room for two and loses its connection.
def oneVisit : List Input :=
  let stale : Stale := .zeros 256
  [⟨⟨.connected, 5, []⟩, stale⟩,
    ⟨⟨.received, 5, ClientMessage.encode (.createRoom ((CharArray.zeros 64).strncpy [97]) 2)⟩, stale⟩,
    ⟨⟨.disconnected, 5, []⟩, stale⟩]

theorem no_ghosts_one_visit : NoGhosts (oneVisit.take 2) := by
  apply no_ghosts
  · intro sessionId
    have single : (oneVisit.take 2).countP (fun input => input.event.type = .connected) = 1 := by
      decide
    rw [← single]
    apply List.countP_mono_left
    intro input _ connected
    simp only [decide_eq_true_eq] at connected ⊢
    exact connected.1
  · decide +kernel

example : (after (oneVisit.take 2)).roomManager.roomList = [0] := by decide +kernel

end MiniGames.CCentralizedServer
