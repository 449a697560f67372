import Mathlib.Algebra.Ring.Nat
import Mathlib.Data.List.Basic
import Mathlib.Data.List.Nodup
import Mathlib.Tactic.Common

set_option autoImplicit false

namespace MiniGames

inductive RoomStatus where
  | waiting
  | playing
  deriving DecidableEq, Repr

-- A null `shared_ptr<CPlayer>` is `none`; members are never null.
structure CRoom (Player : Type) where
  roomId : Int32
  title : List UInt8
  currentPlayers : Int32
  maxPlayers : Int32
  status : RoomStatus
  owner : Option Player
  players : List Player
  deriving DecidableEq

namespace CRoom

variable {Player : Type}

def new (roomId : Int32) (title : List UInt8) (maxPlayers : Int32) : CRoom Player :=
  { roomId := roomId
    title := title
    currentPlayers := 0
    maxPlayers := maxPlayers
    status := .waiting
    owner := none
    players := [] }

def isFull (room : CRoom Player) : Bool := room.currentPlayers ≥ room.maxPlayers

def isEmpty (room : CRoom Player) : Bool := room.currentPlayers = 0

-- What AddPlayer does once its tests have passed.
def append (room : CRoom Player) (player : Player) : CRoom Player :=
  { room with
    players := room.players ++ [player]
    currentPlayers := Int32.ofNat (room.players ++ [player]).length
    owner := if room.owner.isNone then some player else room.owner }

section Members

variable [DecidableEq Player]

def isPlayerInRoom (room : CRoom Player) : Option Player → Bool
  | none => false
  | some player => player ∈ room.players

def addPlayer (room : CRoom Player) : Option Player → CRoom Player × Bool
  | none => (room, false)
  | some player =>
      if room.isFull then (room, false)
      else if room.isPlayerInRoom (some player) then (room, false)
      else (room.append player, true)

def updateOwnerOnLeave (room : CRoom Player) (leavingPlayer : Player) : Option Player :=
  if room.owner = some leavingPlayer then
    room.players.find? fun player => player ≠ leavingPlayer
  else room.owner

-- What RemovePlayer does with a member.
def remove (room : CRoom Player) (player : Player) : CRoom Player :=
  { room with
    owner := room.updateOwnerOnLeave player
    players := room.players.erase player
    currentPlayers := Int32.ofNat (room.players.erase player).length }

def removePlayer (room : CRoom Player) : Option Player → CRoom Player × Bool
  | none => (room, false)
  | some player =>
      if player ∈ room.players then (room.remove player, true) else (room, false)

theorem removePlayer_member {room : CRoom Player} {player : Player}
    (present : player ∈ room.players) :
    (room.removePlayer (some player)).1 = room.remove player := by
  simp [removePlayer, present]

end Members

structure Sound (room : CRoom Player) : Prop where
  nodup : room.players.Nodup
  counted : room.currentPlayers = Int32.ofNat room.players.length
  fits : (room.players.length : Int) ≤ room.maxPlayers.toInt
  owned : ∀ player, room.owner = some player → player ∈ room.players

namespace Sound

variable {room : CRoom Player}

theorem new_sound (roomId : Int32) (title : List UInt8) {maxPlayers : Int32}
    (positive : 0 < maxPlayers) : (new roomId title maxPlayers : CRoom Player).Sound where
  nodup := List.nodup_nil
  counted := rfl
  fits := by
    have positive := Int32.lt_iff_toInt_lt.mp positive
    simpa [new] using Int.le_of_lt positive
  owned _ same := nomatch same

theorem count_lt (sound : room.Sound) : room.players.length < 2 ^ 31 := by
  have fits := sound.fits
  have := room.maxPlayers.toInt_lt
  omega

theorem toInt_currentPlayers (sound : room.Sound) :
    room.currentPlayers.toInt = room.players.length := by
  rw [sound.counted, Int32.toInt_ofNat_of_lt sound.count_lt]

theorem isFull_iff (sound : room.Sound) :
    room.isFull = true ↔ room.maxPlayers.toInt ≤ room.players.length := by
  rw [isFull, decide_eq_true_iff, ge_iff_le, Int32.le_iff_toInt_le, sound.toInt_currentPlayers]

theorem isEmpty_iff (sound : room.Sound) : room.isEmpty = true ↔ room.players = [] := by
  rw [isEmpty, decide_eq_true_iff, ← Int32.toInt_inj, sound.toInt_currentPlayers]
  simp

theorem append (sound : room.Sound) {player : Player} (roomy : room.isFull = false)
    (absent : player ∉ room.players) : (room.append player).Sound where
  nodup := by
    simpa [CRoom.append, List.nodup_append] using
      ⟨sound.nodup, fun member present same => absent (same ▸ present)⟩
  counted := rfl
  fits := by
    have some : ¬ room.maxPlayers.toInt ≤ room.players.length := by
      rw [← sound.isFull_iff, roomy]
      exact Bool.false_ne_true
    simp only [CRoom.append, List.length_append, List.length_singleton]
    omega
  owned member owner := by
    simp only [CRoom.append] at owner ⊢
    split at owner
    · cases owner
      exact List.mem_append_right _ (List.mem_singleton_self _)
    · exact List.mem_append_left _ (sound.owned member owner)

theorem remove [DecidableEq Player] (sound : room.Sound) (player : Player) :
    (room.remove player).Sound where
  nodup := sound.nodup.erase player
  counted := rfl
  fits := by
    have fewer : (room.players.erase player).length ≤ room.players.length :=
      List.erase_sublist.length_le
    have fits := sound.fits
    simp only [CRoom.remove]
    omega
  owned member owner := by
    simp only [CRoom.remove, updateOwnerOnLeave] at owner ⊢
    split at owner
    · have differs : member ≠ player := by simpa using List.find?_some owner
      exact (List.mem_erase_of_ne differs).mpr (List.mem_of_find?_eq_some owner)
    · next other =>
      have differs : member ≠ player := by
        rintro rfl
        exact other owner
      exact (List.mem_erase_of_ne differs).mpr (sound.owned member owner)

theorem removePlayer [DecidableEq Player] (sound : room.Sound) (player : Option Player) :
    (room.removePlayer player).1.Sound := by
  cases player with
  | none => exact sound
  | some player =>
    simp only [CRoom.removePlayer]
    split
    · exact sound.remove player
    · exact sound

end Sound

@[simp] theorem append_players (room : CRoom Player) (player : Player) :
    (room.append player).players = room.players ++ [player] := rfl

@[simp] theorem append_roomId (room : CRoom Player) (player : Player) :
    (room.append player).roomId = room.roomId := rfl

@[simp] theorem remove_players [DecidableEq Player] (room : CRoom Player) (player : Player) :
    (room.remove player).players = room.players.erase player := rfl

@[simp] theorem remove_roomId [DecidableEq Player] (room : CRoom Player) (player : Player) :
    (room.remove player).roomId = room.roomId := rfl

@[simp] theorem removePlayer_roomId [DecidableEq Player] (room : CRoom Player)
    (player : Option Player) : (room.removePlayer player).1.roomId = room.roomId := by
  cases player with
  | none => rfl
  | some player =>
    simp only [removePlayer]
    split <;> rfl

end CRoom

end MiniGames
