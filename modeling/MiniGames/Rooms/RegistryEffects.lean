import MiniGames.Rooms.Registry

set_option autoImplicit false

namespace MiniGames.CRoomManager

variable {Player : Type} [DecidableEq Player]

-- The room with the given id, changed, dropped or kept.
def changeRoom (roomId : Int32) (change : CRoom Player → Option (CRoom Player))
    (room : CRoom Player) : Option (CRoom Player) :=
  if room.roomId = roomId then change room else some room

-- What becomes of the room of a leaving player.
def leftBy (player : Player) (room : CRoom Player) : Option (CRoom Player) :=
  if room.players.erase player = [] then none else some (room.remove player)

structure HasLeft (before after : CRoomManager Player) (player : Player) (roomId : Int32) :
    Prop where
  listed : after.listed = before.listed.filterMap (changeRoom roomId (leftBy player))
  mapped : ∀ other, (after.findRoom other).map after.rooms =
    after.listed.find? fun room => room.roomId = other
  placed : ∀ other, after.playerToRoomMap.lookup other =
    if other = player then none else before.playerToRoomMap.lookup other
  out : ∀ room ∈ after.listed, player ∉ room.players

structure HasCreated (before after : CRoomManager Player) (player : Player) (roomId : Int32)
    (title : List UInt8) (maxPlayers : Int32) : Prop where
  fresh : ∀ ptr < before.allocated, (before.rooms ptr).roomId ≠ roomId
  listed : after.listed =
    { roomId := roomId
      title := title
      currentPlayers := 1
      maxPlayers := maxPlayers
      status := .waiting
      owner := some player
      players := [player] } :: before.listed
  mapped : ∀ other, (after.findRoom other).map after.rooms =
    after.listed.find? fun room => room.roomId = other
  placed : ∀ other, after.playerToRoomMap.lookup other =
    if other = player then some roomId else before.playerToRoomMap.lookup other

structure HasJoined (before after : CRoomManager Player) (player : Player) (roomId : Int32) :
    Prop where
  listed : after.listed =
    before.listed.map fun room => if room.roomId = roomId then room.append player else room
  mapped : ∀ other, (after.findRoom other).map after.rooms =
    after.listed.find? fun room => room.roomId = other
  placed : ∀ other, after.playerToRoomMap.lookup other =
    if other = player then some roomId else before.playerToRoomMap.lookup other

namespace Consistent

variable {manager : CRoomManager Player} (consistent : manager.Consistent)

include consistent

theorem createRoom_listed (title : List UInt8) (maxPlayers : Int32) :
    (manager.createRoom title maxPlayers).1.listed =
      .new manager.roomIdCounter title maxPlayers :: manager.listed := by
  simp only [listed, CRoomManager.createRoom, store, List.map_cons, Function.update_self]
  apply congrArg
  apply List.map_congr_left
  intro ptr member
  exact Function.update_of_ne (Nat.ne_of_lt (consistent.made ptr member)) ..

theorem change_listed {roomId : Int32} {ptr : Nat} (found : manager.findRoom roomId = some ptr)
    (change : CRoom Player → Option (CRoom Player)) :
    (manager.roomList.filterMap fun other =>
        if other = ptr then change (manager.rooms ptr) else some (manager.rooms other)) =
      manager.listed.filterMap (changeRoom roomId change) := by
  obtain ⟨here, named⟩ := consistent.find found
  rw [listed, List.filterMap_map]
  apply List.filterMap_congr
  intro other member
  simp only [Function.comp_apply, changeRoom]
  by_cases same : other = ptr
  · rw [if_pos same, same, if_pos named]
  · have differs : (manager.rooms other).roomId ≠ roomId := by
      rw [← named]
      exact fun equal => same ((consistent.id_eq_iff here member).mp equal)
    rw [if_neg same, if_neg differs]

theorem seat_listed {roomId : Int32} {player : Player} {ptr : Nat}
    (joinable : manager.Joinable roomId player ptr) :
    (manager.seat roomId player ptr).listed =
      manager.listed.map fun room => if room.roomId = roomId then room.append player else room := by
  have changed := consistent.change_listed joinable.found fun room => some (room.append player)
  have kept : changeRoom roomId (fun room => some (room.append player)) = fun room : CRoom Player =>
      some (if room.roomId = roomId then room.append player else room) := by
    funext room
    simp only [changeRoom]
    split <;> rfl
  rw [kept, List.filterMap_eq_map'] at changed
  rw [← changed, listed, ← List.filterMap_eq_map']
  apply List.filterMap_congr
  intro other _
  simp only [CRoomManager.seat, store, Function.update_apply]
  split <;> rfl

theorem depart_eq {player : Player} {roomId : Int32} {ptr : Nat}
    (seated : manager.Seated player roomId ptr) :
    manager.depart player roomId ptr =
      if (manager.rooms ptr).players.erase player = [] then
        { manager.vacate player ptr with
          roomList := manager.roomList.filter fun other => other ≠ ptr
          roomMap := manager.roomMap.erase roomId }
      else manager.vacate player ptr := by
  have member := (consistent.find seated.found).1
  have found : manager.roomMap.lookup roomId = some ptr := seated.found
  have removed := (consistent.sound ptr member).remove player
  simp only [CRoomManager.depart, CRoom.removePlayer_member seated.present, removed.isEmpty_iff,
    CRoom.remove_players]
  split
  · next gone =>
    simp only [CRoomManager.deleteRoom, CRoomManager.vacate, store, found, Function.update_self,
      CRoom.removePlayer_member seated.present, CRoom.remove_players, gone, List.foldl_nil]
  · rfl

theorem depart_listed {player : Player} {roomId : Int32} {ptr : Nat}
    (seated : manager.Seated player roomId ptr) :
    (manager.depart player roomId ptr).listed =
      manager.listed.filterMap (changeRoom roomId (leftBy player)) := by
  rw [consistent.depart_eq seated, ← consistent.change_listed seated.found, leftBy]
  split
  · next gone =>
    simp only [listed, CRoomManager.vacate, CRoom.removePlayer_member seated.present, store]
    rw [← List.filterMap_eq_map', List.filterMap_filter]
    apply List.filterMap_congr
    intro other _
    by_cases same : other = ptr
    · simp [same]
    · simp [same]
  · simp only [listed, CRoomManager.vacate, CRoom.removePlayer_member seated.present, store]
    rw [← List.filterMap_eq_map']
    apply List.filterMap_congr
    intro other _
    rw [Function.update_apply]
    split <;> rfl

theorem depart_players {player : Player} {roomId : Int32} {ptr : Nat}
    (seated : manager.Seated player roomId ptr) :
    (manager.depart player roomId ptr).playerToRoomMap = manager.playerToRoomMap.erase player := by
  rw [consistent.depart_eq seated]
  split <;> rfl

theorem nowhere_iff {player : Player} : manager.playerToRoomMap.lookup player = none ↔
    ∀ room ∈ manager.listed, player ∉ room.players := by
  rw [consistent.unplaced_iff, listed, List.forall_mem_map]

theorem findRoom_eq (roomId : Int32) : (manager.findRoom roomId).map manager.rooms =
    manager.listed.find? fun room => room.roomId = roomId := by
  rw [listed, List.find?_map]
  cases seen : manager.roomList.find? ((fun room => decide (room.roomId = roomId)) ∘ manager.rooms) with
  | none =>
    cases found : manager.findRoom roomId with
    | none => rfl
    | some ptr =>
      obtain ⟨member, named⟩ := consistent.find found
      have differs := List.find?_eq_none.mp seen ptr member
      simp [named] at differs
  | some ptr =>
    have named : (manager.rooms ptr).roomId = roomId := by simpa using List.find?_some seen
    have found : manager.findRoom roomId = some ptr :=
      (consistent.mapped roomId ptr).mpr ⟨List.mem_of_find?_eq_some seen, named⟩
    rw [found]

theorem hasLeft {player : Player} {roomId : Int32}
    (placed : manager.playerToRoomMap.lookup player = some roomId) :
    manager.HasLeft (manager.leaveRoom (some player)).1 player roomId := by
  obtain ⟨ptr, seated⟩ := consistent.seated placed
  rw [leaveRoom_found seated.placed seated.found]
  constructor
  case listed => exact consistent.depart_listed seated
  case mapped => exact (consistent.depart seated).findRoom_eq
  case placed =>
    intro other
    rw [consistent.depart_players seated]
    split
    · next same => rw [same, AList.lookup_erase]
    · next differs => exact AList.lookup_erase_ne differs
  case out =>
    have departed := consistent.depart seated
    have unplaced : (manager.depart player roomId ptr).playerToRoomMap.lookup player = none := by
      rw [consistent.depart_players seated, AList.lookup_erase]
    exact departed.nowhere_iff.mp unplaced

theorem hasJoined {roomId : Int32} {player : Player} {ptr : Nat}
    (joinable : manager.Joinable roomId player ptr) :
    manager.HasJoined (manager.seat roomId player ptr) player roomId := by
  constructor
  case listed => exact consistent.seat_listed joinable
  case mapped => exact (consistent.seat joinable).findRoom_eq
  case placed =>
    intro other
    simp only [CRoomManager.seat]
    split
    · next same => rw [same, AList.lookup_insert]
    · next differs => exact AList.lookup_insert_ne differs

theorem joinable_iff {roomId : Int32} {player : Player} :
    (∃ ptr, manager.Joinable roomId player ptr) ↔
      (∀ room ∈ manager.listed, player ∉ room.players) ∧
        ∃ room ∈ manager.listed, room.roomId = roomId ∧
          (room.players.length : Int) < room.maxPlayers.toInt := by
  have notFull {ptr : Nat} (member : ptr ∈ manager.roomList) :
      (manager.rooms ptr).isFull = false ↔
        ((manager.rooms ptr).players.length : Int) < (manager.rooms ptr).maxPlayers.toInt := by
    rw [← Bool.not_eq_true, (consistent.sound ptr member).isFull_iff, Int.not_le]
  constructor
  · intro ⟨ptr, joinable⟩
    obtain ⟨member, named⟩ := consistent.find joinable.found
    constructor
    · exact consistent.nowhere_iff.mp joinable.unplaced
    · exact ⟨_, List.mem_map_of_mem member, named, (notFull member).mp joinable.roomy⟩
  · intro ⟨nowhere, room, listed, named, free⟩
    obtain ⟨ptr, member, rfl⟩ := List.mem_map.mp listed
    exact ⟨ptr, consistent.nowhere_iff.mpr nowhere, (consistent.mapped roomId ptr).mpr ⟨member, named⟩,
      (notFull member).mpr free, nowhere _ listed⟩

theorem joinRoom_hasJoined {roomId : Int32} {player : Player}
    (success : (manager.joinRoom roomId (some player)).2 = true) :
    manager.HasJoined (manager.joinRoom roomId (some player)).1 player roomId := by
  rcases manager.joinRoom_cases roomId (some player) with ⟨_, ptr, same, joinable, joined⟩ | ⟨_, refused⟩
  · cases same
    rw [joined]
    exact consistent.hasJoined joinable
  · rw [refused] at success
    cases success

theorem leaveRoom_success {player : Player} : (manager.leaveRoom (some player)).2 = true ↔
    ∃ room ∈ manager.listed, player ∈ room.players := by
  rcases consistent.leaveRoom_cases (some player) with ⟨_, _, ptr, same, seated, left⟩ | ⟨out, refused⟩
  · cases same
    rw [left]
    have member := (consistent.find seated.found).1
    exact iff_of_true rfl ⟨_, List.mem_map_of_mem member, seated.present⟩
  · rw [refused]
    simp only [Bool.false_eq_true, false_iff]
    intro ⟨room, member, inside⟩
    exact consistent.nowhere_iff.mp (out player rfl) room member inside

theorem lookup_of_mem {player : Player} {room : CRoom Player} (member : room ∈ manager.listed)
    (inside : player ∈ room.players) :
    manager.playerToRoomMap.lookup player = some room.roomId := by
  obtain ⟨ptr, listed, rfl⟩ := List.mem_map.mp member
  exact (consistent.placed player _).mpr ⟨ptr, listed, rfl, inside⟩

end Consistent

end MiniGames.CRoomManager
