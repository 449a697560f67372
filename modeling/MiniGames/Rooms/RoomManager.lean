import MiniGames.Rooms.Room
import Mathlib.Data.List.AList

set_option autoImplicit false

namespace MiniGames

-- A `shared_ptr<CRoom>` is the number of the `make_shared` call that made the room.
structure CRoomManager (Player : Type) where
  roomIdCounter : Int32
  roomList : List Nat
  roomMap : AList fun _ : Int32 => Nat
  playerToRoomMap : AList fun _ : Player => Int32
  -- The rooms made so far, deleted ones included, and how many they are.
  rooms : Nat → CRoom Player
  allocated : Nat

namespace CRoomManager

variable {Player : Type}

def new : CRoomManager Player :=
  { roomIdCounter := 1
    roomList := []
    roomMap := ∅
    playerToRoomMap := ∅
    rooms := fun _ => .new 0 [] 0
    allocated := 0 }

-- The rooms of GetRoomList.
def listed (manager : CRoomManager Player) : List (CRoom Player) :=
  manager.roomList.map manager.rooms

def store (manager : CRoomManager Player) (ptr : Nat) (room : CRoom Player) :
    CRoomManager Player :=
  { manager with rooms := Function.update manager.rooms ptr room }

theorem store_self (manager : CRoomManager Player) (ptr : Nat) :
    manager.store ptr (manager.rooms ptr) = manager := by
  simp [store]

def createRoom (manager : CRoomManager Player) (title : List UInt8) (maxPlayers : Int32) :
    CRoomManager Player × Nat :=
  let roomId := manager.roomIdCounter
  let ptr := manager.allocated
  ({ manager.store ptr (.new roomId title maxPlayers) with
      roomIdCounter := manager.roomIdCounter + 1
      roomList := ptr :: manager.roomList
      roomMap := manager.roomMap.insert roomId ptr
      allocated := manager.allocated + 1 }, ptr)

@[simp] theorem createRoom_id (manager : CRoomManager Player) (title : List UInt8)
    (maxPlayers : Int32) : ((manager.createRoom title maxPlayers).1.rooms
      (manager.createRoom title maxPlayers).2).roomId = manager.roomIdCounter := by
  simp [createRoom, store, CRoom.new]

def findRoom (manager : CRoomManager Player) (roomId : Int32) : Option Nat :=
  manager.roomMap.lookup roomId

def findRoomByTitle (manager : CRoomManager Player) (title : List UInt8) : Option Nat :=
  manager.roomList.find? fun ptr => (manager.rooms ptr).title = title

variable [DecidableEq Player]

def findRoomByPlayer (manager : CRoomManager Player) : Option Player → Option Nat
  | none => none
  | some player =>
      match manager.playerToRoomMap.lookup player with
      | none => none
      | some roomId => manager.findRoom roomId

def deleteRoom (manager : CRoomManager Player) (roomId : Int32) : CRoomManager Player × Bool :=
  match manager.roomMap.lookup roomId with
  | none => (manager, false)
  | some room =>
      ({ manager with
          playerToRoomMap := (manager.rooms room).players.foldl
            (fun players player => players.erase player) manager.playerToRoomMap
          roomList := manager.roomList.filter fun ptr => ptr ≠ room
          roomMap := manager.roomMap.erase roomId }, true)

def joinRoom (manager : CRoomManager Player) (roomId : Int32) :
    Option Player → CRoomManager Player × Bool
  | none => (manager, false)
  | some player =>
      if (manager.playerToRoomMap.lookup player).isSome then (manager, false)
      else
        match manager.findRoom roomId with
        | none => (manager, false)
        | some room =>
            let added := (manager.rooms room).addPlayer (some player)
            let manager := manager.store room added.1
            if added.2 then
              ({ manager with
                  playerToRoomMap := manager.playerToRoomMap.insert player roomId }, true)
            else (manager, false)

def leaveRoom (manager : CRoomManager Player) : Option Player → CRoomManager Player × Bool
  | none => (manager, false)
  | some player =>
      match manager.playerToRoomMap.lookup player with
      | none => (manager, false)
      | some roomId =>
          match manager.findRoom roomId with
          | none =>
              ({ manager with playerToRoomMap := manager.playerToRoomMap.erase player }, false)
          | some room =>
              let manager := manager.store room ((manager.rooms room).removePlayer (some player)).1
              let manager :=
                { manager with playerToRoomMap := manager.playerToRoomMap.erase player }
              if (manager.rooms room).isEmpty then ((manager.deleteRoom roomId).1, true)
              else (manager, true)

-- What JoinRoom does once its tests and those of AddPlayer have passed.
def seat (manager : CRoomManager Player) (roomId : Int32) (player : Player) (ptr : Nat) :
    CRoomManager Player :=
  { manager.store ptr ((manager.rooms ptr).append player) with
    playerToRoomMap := manager.playerToRoomMap.insert player roomId }

-- What LeaveRoom does with the room it finds, before it tests whether the room is empty.
def vacate (manager : CRoomManager Player) (player : Player) (ptr : Nat) : CRoomManager Player :=
  { manager.store ptr ((manager.rooms ptr).removePlayer (some player)).1 with
    playerToRoomMap := manager.playerToRoomMap.erase player }

-- What LeaveRoom does with the room it finds.
def depart (manager : CRoomManager Player) (player : Player) (roomId : Int32) (ptr : Nat) :
    CRoomManager Player :=
  if ((manager.rooms ptr).removePlayer (some player)).1.isEmpty
  then ((manager.vacate player ptr).deleteRoom roomId).1
  else manager.vacate player ptr

@[simp] theorem seat_lookup (manager : CRoomManager Player) (roomId : Int32) (player : Player)
    (ptr : Nat) : (manager.seat roomId player ptr).playerToRoomMap.lookup player = some roomId :=
  AList.lookup_insert _

structure Joinable (manager : CRoomManager Player) (roomId : Int32) (player : Player)
    (ptr : Nat) : Prop where
  unplaced : manager.playerToRoomMap.lookup player = none
  found : manager.findRoom roomId = some ptr
  roomy : (manager.rooms ptr).isFull = false
  absent : player ∉ (manager.rooms ptr).players

structure Seated (manager : CRoomManager Player) (player : Player) (roomId : Int32)
    (ptr : Nat) : Prop where
  placed : manager.playerToRoomMap.lookup player = some roomId
  found : manager.findRoom roomId = some ptr
  present : player ∈ (manager.rooms ptr).players

theorem joinRoom_cases (manager : CRoomManager Player) (roomId : Int32) (player : Option Player) :
    (∃ joining ptr, player = some joining ∧ manager.Joinable roomId joining ptr ∧
      manager.joinRoom roomId player = (manager.seat roomId joining ptr, true)) ∨
    ((∀ joining ptr, player = some joining → ¬ manager.Joinable roomId joining ptr) ∧
      manager.joinRoom roomId player = (manager, false)) := by
  cases player with
  | none => exact .inr ⟨by simp, rfl⟩
  | some player =>
    simp only [joinRoom]
    split
    · next placed =>
      refine .inr ⟨fun joining ptr same joinable => ?_, rfl⟩
      cases same
      rw [joinable.unplaced] at placed
      cases placed
    · next unplaced =>
      have unplaced := Option.not_isSome_iff_eq_none.mp unplaced
      split
      · next missing =>
        refine .inr ⟨fun joining ptr same joinable => ?_, rfl⟩
        rw [joinable.found] at missing
        cases missing
      · next ptr found =>
        simp only [CRoom.addPlayer, CRoom.isPlayerInRoom]
        by_cases full : (manager.rooms ptr).isFull = true
        · refine .inr ⟨fun joining other same joinable => ?_, ?_⟩
          · cases found.symm.trans joinable.found
            rw [joinable.roomy] at full
            cases full
          · simp [full, store_self]
        · by_cases present : player ∈ (manager.rooms ptr).players
          · refine .inr ⟨fun joining other same joinable => ?_, ?_⟩
            · cases same
              cases found.symm.trans joinable.found
              exact joinable.absent present
            · simp [full, present, store_self]
          · refine .inl ⟨player, ptr, rfl, ⟨unplaced, found, by simpa using full, present⟩, ?_⟩
            simp [full, present, seat, store]

theorem joinRoom_success {manager : CRoomManager Player} {roomId : Int32} {player : Player} :
    (manager.joinRoom roomId (some player)).2 = true ↔
      ∃ ptr, manager.Joinable roomId player ptr := by
  rcases manager.joinRoom_cases roomId (some player) with
    ⟨_, ptr, same, joinable, joined⟩ | ⟨never, refused⟩
  · cases same
    rw [joined]
    exact iff_of_true rfl ⟨ptr, joinable⟩
  · rw [refused]
    simp only [Bool.false_eq_true, false_iff, not_exists]
    intro ptr
    exact never player ptr rfl

theorem leaveRoom_found {manager : CRoomManager Player} {player : Player} {roomId : Int32}
    {ptr : Nat} (placed : manager.playerToRoomMap.lookup player = some roomId)
    (found : manager.findRoom roomId = some ptr) :
    manager.leaveRoom (some player) = (manager.depart player roomId ptr, true) := by
  simp only [leaveRoom, placed, found, depart, vacate, store, Function.update_self]
  split <;> rfl

theorem leaveRoom_missing {manager : CRoomManager Player} {player : Player} {roomId : Int32}
    (placed : manager.playerToRoomMap.lookup player = some roomId)
    (missing : manager.findRoom roomId = none) : manager.leaveRoom (some player) =
      ({ manager with playerToRoomMap := manager.playerToRoomMap.erase player }, false) := by
  simp only [leaveRoom, placed, missing]

theorem leaveRoom_unplaced {manager : CRoomManager Player} {player : Player}
    (unplaced : manager.playerToRoomMap.lookup player = none) :
    manager.leaveRoom (some player) = (manager, false) := by
  simp only [leaveRoom, unplaced]

@[simp] theorem deleteRoom_allocated (manager : CRoomManager Player) (roomId : Int32) :
    (manager.deleteRoom roomId).1.allocated = manager.allocated := by
  simp only [deleteRoom]
  split <;> rfl

@[simp] theorem joinRoom_allocated (manager : CRoomManager Player) (roomId : Int32)
    (player : Option Player) : (manager.joinRoom roomId player).1.allocated = manager.allocated := by
  rcases manager.joinRoom_cases roomId player with ⟨_, _, _, _, joined⟩ | ⟨_, refused⟩
  · rw [joined]
    rfl
  · rw [refused]

@[simp] theorem leaveRoom_allocated (manager : CRoomManager Player) (player : Option Player) :
    (manager.leaveRoom player).1.allocated = manager.allocated := by
  cases player with
  | none => rfl
  | some player =>
    simp only [leaveRoom]
    split
    · rfl
    · split
      · rfl
      · split
        · rw [deleteRoom_allocated]
          rfl
        · rfl

def getTotalPlayerCount (manager : CRoomManager Player) : Int32 :=
  Int32.ofNat manager.playerToRoomMap.entries.length

end CRoomManager

end MiniGames
