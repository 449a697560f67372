import MiniGames.Rooms.Registry

set_option autoImplicit false

namespace MiniGames

open Runs

inductive RoomCall (Player : Type) where
  | createRoom (title : List UInt8) (maxPlayers : Int32)
  | deleteRoom (roomId : Int32)
  | joinRoom (roomId : Int32) (player : Option Player)
  | leaveRoom (player : Option Player)

namespace CRoomManager

variable {Player : Type} [DecidableEq Player]

def call (manager : CRoomManager Player) : RoomCall Player → Option (CRoomManager Player)
  | .createRoom title maxPlayers => some (manager.createRoom title maxPlayers).1
  | .deleteRoom roomId => some (manager.deleteRoom roomId).1
  | .joinRoom roomId player => some (manager.joinRoom roomId player).1
  | .leaveRoom player => some (manager.leaveRoom player).1

-- Rooms are made for at least one player, and fewer than 2^31 of them.
def Admissible (manager : CRoomManager Player) : RoomCall Player → Prop
  | .createRoom _ maxPlayers => 0 < maxPlayers ∧ manager.allocated + 1 < 2 ^ 31
  | _ => True

theorem Consistent.call {manager next : CRoomManager Player} (consistent : manager.Consistent)
    (action : RoomCall Player) (admissible : manager.Admissible action)
    (called : manager.call action = some next) : next.Consistent := by
  cases action with
  | createRoom title maxPlayers =>
    cases called
    exact consistent.createRoom admissible.2 title admissible.1
  | deleteRoom roomId =>
    cases called
    exact consistent.deleteRoom roomId
  | joinRoom roomId player =>
    cases called
    exact consistent.joinRoom roomId player
  | leaveRoom player =>
    cases called
    exact consistent.leaveRoom player

theorem consistent_of_reachable {start manager : CRoomManager Player}
    (consistent : start.Consistent) (reached : Reachable call Admissible start manager) :
    manager.Consistent := by
  apply reached.invariant consistent
  intro manager action next consistent admissible called
  exact consistent.call action admissible called

structure Agree (manager : CRoomManager Player) : Prop where
  sameRooms : ∀ ptr, ptr ∈ manager.roomList ↔ ∃ roomId, manager.findRoom roomId = some ptr
  ownId : ∀ roomId ptr, manager.findRoom roomId = some ptr → (manager.rooms ptr).roomId = roomId
  decreasing : (manager.listed.map CRoom.roomId).Pairwise (· > ·)
  distinct : ∀ earlier later, earlier < later → later < manager.allocated →
    (manager.rooms earlier).roomId < (manager.rooms later).roomId
  placed : ∀ player roomId, manager.playerToRoomMap.lookup player = some roomId ↔
    ∃ ptr, manager.findRoom roomId = some ptr ∧ player ∈ (manager.rooms ptr).players
  alone : ∀ player, ∀ ptr ∈ manager.roomList, ∀ other ∈ manager.roomList,
    player ∈ (manager.rooms ptr).players → player ∈ (manager.rooms other).players → ptr = other
  once : ∀ room ∈ manager.listed, room.players.Nodup
  counted : ∀ room ∈ manager.listed, room.currentPlayers.toInt = room.players.length ∧
    room.currentPlayers ≤ room.maxPlayers
  total : manager.getTotalPlayerCount = (manager.listed.map CRoom.currentPlayers).sum ∧
    manager.playerToRoomMap.entries.length =
      (manager.listed.map fun room => room.players.length).sum
  -- LeaveRoom finds the room that the map of the players names.
  found : ∀ player roomId, manager.playerToRoomMap.lookup player = some roomId →
    manager.findRoom roomId ≠ none
  -- When JoinRoom gets to AddPlayer, the player is not in the room.
  absent : ∀ player roomId ptr, manager.playerToRoomMap.lookup player = none →
    manager.findRoom roomId = some ptr →
    (manager.rooms ptr).isPlayerInRoom (some player) = false

namespace Consistent

variable {manager : CRoomManager Player} (consistent : manager.Consistent)

include consistent

theorem listed_sound {room : CRoom Player} (member : room ∈ manager.listed) : room.Sound := by
  obtain ⟨ptr, listed, rfl⟩ := List.mem_map.mp member
  exact consistent.sound ptr listed

theorem decreasing : (manager.listed.map CRoom.roomId).Pairwise (· > ·) := by
  simp only [listed, List.map_map, List.pairwise_map, Function.comp_apply]
  apply consistent.newest.imp_of_mem
  intro later earlier member present newer
  rw [gt_iff_lt, Int32.lt_iff_toInt_lt, consistent.toInt_roomId (consistent.made later member),
    consistent.toInt_roomId (consistent.made earlier present)]
  omega

theorem keys_perm : manager.playerToRoomMap.keys.Perm
    (manager.roomList.flatMap fun ptr => (manager.rooms ptr).players) := by
  apply (List.perm_ext_iff_of_nodup manager.playerToRoomMap.keys_nodup ?_).mpr
  · intro player
    rw [← AList.mem_keys, ← AList.lookup_isSome, List.mem_flatMap, Option.isSome_iff_exists]
    constructor
    · intro ⟨roomId, placed⟩
      obtain ⟨ptr, member, _, held⟩ := (consistent.placed player roomId).mp placed
      exact ⟨ptr, member, held⟩
    · intro ⟨ptr, member, held⟩
      exact ⟨_, (consistent.placed player _).mpr ⟨ptr, member, rfl, held⟩⟩
  · apply List.nodup_flatMap.mpr
    constructor
    · intro ptr member
      exact (consistent.sound ptr member).nodup
    · apply consistent.newest.imp_of_mem
      intro later earlier member present newer player held kept
      have same := consistent.alone member present held kept
      omega

theorem players_total : manager.playerToRoomMap.entries.length =
    (manager.listed.map fun room => room.players.length).sum := by
  have same := consistent.keys_perm.length_eq
  rw [List.length_flatMap] at same
  simpa [AList.keys, List.keys, listed, Function.comp_def] using same

theorem current_total :
    (manager.listed.map CRoom.currentPlayers).sum = manager.getTotalPlayerCount := by
  have counts : manager.listed.map CRoom.currentPlayers =
      (manager.listed.map fun room => room.players.length).map Int32.ofNat := by
    rw [List.map_map]
    apply List.map_congr_left
    intro room member
    exact (consistent.listed_sound member).counted
  rw [counts, getTotalPlayerCount, consistent.players_total]
  generalize manager.listed.map (fun room => room.players.length) = lengths
  induction lengths with
  | nil => rfl
  | cons first rest ih => rw [List.map_cons, List.sum_cons, List.sum_cons, Int32.ofNat_add, ih]

theorem agree : manager.Agree := by
  constructor
  case sameRooms =>
    intro ptr
    constructor
    · intro member
      exact ⟨_, (consistent.mapped _ ptr).mpr ⟨member, rfl⟩⟩
    · intro ⟨roomId, found⟩
      exact (consistent.find found).1
  case ownId =>
    intro roomId ptr found
    exact (consistent.find found).2
  case decreasing => exact consistent.decreasing
  case distinct =>
    intro earlier later before made
    rw [Int32.lt_iff_toInt_lt, consistent.toInt_roomId made,
      consistent.toInt_roomId (Nat.lt_trans before made)]
    omega
  case placed =>
    intro player roomId
    simp only [consistent.placed, findRoom, consistent.mapped, and_assoc]
  case alone =>
    intro player ptr member other present held kept
    exact consistent.alone member present held kept
  case once =>
    intro room member
    exact (consistent.listed_sound member).nodup
  case counted =>
    intro room member
    have sound := consistent.listed_sound member
    rw [Int32.le_iff_toInt_le, sound.toInt_currentPlayers]
    exact ⟨rfl, sound.fits⟩
  case total => exact ⟨consistent.current_total.symm, consistent.players_total⟩
  case found =>
    intro player roomId placed missing
    have there := consistent.findRoom_isSome placed
    rw [missing] at there
    cases there
  case absent =>
    intro player roomId ptr unplaced found
    apply decide_eq_false
    exact consistent.unplaced_iff.mp unplaced ptr (consistent.find found).1

end Consistent

theorem allocated_le {manager later : CRoomManager Player}
    (onward : Reachable call Admissible manager later) : manager.allocated ≤ later.allocated := by
  induction onward with
  | start => exact Nat.le_refl _
  | @step _ _ action _ _ called before =>
    cases action with
    | createRoom title maxPlayers =>
      cases called
      exact Nat.le_succ_of_le before
    | deleteRoom roomId | joinRoom roomId player | leaveRoom player =>
      cases called
      simpa using before

/-- The containers agree after every run of calls, and CreateRoom never hands out an id again. -/
theorem registry_agrees {manager later : CRoomManager Player}
    (reached : Reachable call Admissible new manager)
    (onward : Reachable call Admissible manager later) :
    later.Agree ∧ ∀ title maxPlayers, ∀ ptr < manager.allocated,
      (manager.rooms ptr).roomId ≠
        ((later.createRoom title maxPlayers).1.rooms
          (later.createRoom title maxPlayers).2).roomId := by
  have consistent := consistent_of_reachable new_consistent reached
  have after := consistent_of_reachable consistent onward
  apply And.intro after.agree
  intro title maxPlayers ptr made
  have grown := allocated_le onward
  have few := after.few
  rw [createRoom_id, consistent.ids ptr made, after.counter]
  intro same
  have same := ofNat_inj (by omega) (by omega) same
  omega

-- A room is left by its only player and another is made.
theorem registry_agrees_two_rooms :
    let left := (((new : CRoomManager Nat).createRoom [97] 2).1.joinRoom 1 (some 7)).1
    let made := ((left.leaveRoom (some 7)).1.createRoom [98] 3).1
    made.Agree ∧ ∀ title maxPlayers, ∀ ptr < left.allocated,
      (left.rooms ptr).roomId ≠
        ((made.createRoom title maxPlayers).1.rooms
          (made.createRoom title maxPlayers).2).roomId := by
  intro left made
  have permitted : (new : CRoomManager Nat).Admissible (.createRoom [97] 2) := by
    constructor <;> decide
  have again : (left.leaveRoom (some 7)).1.Admissible (.createRoom [98] 3) := by
    constructor <;> decide
  have joining : (new.createRoom [97] 2).1.Admissible (.joinRoom 1 (some 7)) := trivial
  have leaving : left.Admissible (.leaveRoom (some 7)) := trivial
  have reached : Reachable call Admissible new left :=
    .step (.step .start permitted rfl) joining rfl
  have onward : Reachable call Admissible left made :=
    .step (.step .start leaving rfl) again rfl
  exact registry_agrees reached onward

end CRoomManager

end MiniGames
