import MiniGames.Rooms.Room
import MiniGames.Shared.Presence
import MiniGames.Shared.Runs

set_option autoImplicit false

namespace MiniGames

open Presence Runs

namespace CRoom

variable {Player : Type} [DecidableEq Player]

-- A null player is `none`.
inductive Call (Player : Type) where
  | addPlayer (player : Option Player)
  | removePlayer (player : Option Player)
  deriving DecidableEq

def call (room : CRoom Player) : Call Player → CRoom Player × Bool
  | .addPlayer player => room.addPlayer player
  | .removePlayer player => room.removePlayer player

-- What a call that has returned was: a player has joined, has left, or it has failed.
def visit : Call Player × Bool → Visit Player
  | (.addPlayer (some player), true) => .joined player
  | (.removePlayer (some player), true) => .left player
  | _ => .neither

theorem addPlayer_cases (room : CRoom Player) (player : Option Player) :
    (∃ joining, player = some joining ∧ room.isFull = false ∧ joining ∉ room.players ∧
      room.addPlayer player = (room.append joining, true)) ∨
    room.addPlayer player = (room, false) := by
  cases player with
  | none => exact .inr rfl
  | some player =>
    by_cases full : room.isFull = true
    · exact .inr (by simp [addPlayer, full])
    · by_cases present : player ∈ room.players
      · exact .inr (by simp [addPlayer, isPlayerInRoom, present])
      · have roomy := Bool.eq_false_iff.mpr full
        exact .inl ⟨player, rfl, roomy, present, by
          simp [addPlayer, isPlayerInRoom, roomy, present]⟩

theorem removePlayer_cases (room : CRoom Player) (player : Option Player) :
    (∃ leaving, player = some leaving ∧ leaving ∈ room.players ∧
      room.removePlayer player = (room.remove leaving, true)) ∨
    room.removePlayer player = (room, false) := by
  cases player with
  | none => exact .inr rfl
  | some player =>
    by_cases present : player ∈ room.players
    · exact .inl ⟨player, rfl, present, by simp [removePlayer, present]⟩
    · exact .inr (by simp [removePlayer, present])

theorem call_refused (room : CRoom Player) (next : Call Player)
    (refused : (room.call next).2 = false) : (room.call next).1 = room := by
  cases next with
  | addPlayer player =>
    rcases room.addPlayer_cases player with ⟨_, _, _, _, added⟩ | same
    · simp [call, added] at refused
    · simp [call, same]
  | removePlayer player =>
    rcases room.removePlayer_cases player with ⟨_, _, _, removed⟩ | same
    · simp [call, removed] at refused
    · simp [call, same]

structure Attended (maxPlayers : Int32) (history : List (Call Player × Bool))
    (room : CRoom Player) : Prop where
  sound : room.Sound
  limit : room.maxPlayers = maxPlayers
  roster : Roster (history.map visit) room.players
  owner : room.owner = room.players.head?

namespace Attended

variable {maxPlayers : Int32} {history : List (Call Player × Bool)} {room : CRoom Player}

omit [DecidableEq Player] in
theorem new_attended (roomId : Int32) (title : List UInt8) (positive : 0 < maxPlayers) :
    Attended maxPlayers [] (new roomId title maxPlayers : CRoom Player) :=
  ⟨Sound.new_sound roomId title positive, rfl, Roster.nil, rfl⟩

variable (attended : Attended maxPlayers history room)

include attended

omit [DecidableEq Player] in
theorem append {player : Player} (roomy : room.isFull = false) (absent : player ∉ room.players) :
    Attended maxPlayers (history ++ [(.addPlayer (some player), true)]) (room.append player) where
  sound := attended.sound.append roomy absent
  limit := attended.limit
  roster := by
    rw [List.map_append]
    exact attended.roster.join absent
  owner := by
    simp only [CRoom.append, attended.owner]
    cases room.players with
    | nil => rfl
    | cons first rest => rfl

theorem updateOwnerOnLeave {player : Player} :
    room.updateOwnerOnLeave player = (room.players.erase player).head? := by
  have nodup := attended.sound.nodup
  simp only [CRoom.updateOwnerOnLeave, attended.owner]
  cases members : room.players with
  | nil => simp
  | cons first rest =>
    rw [members, List.nodup_cons] at nodup
    by_cases leaves : first = player
    · subst leaves
      rw [List.erase_cons_head, if_pos List.head?_cons, List.find?_cons_of_neg (by simp)]
      cases rest with
      | nil => rfl
      | cons second others =>
        have apart : second ≠ first := by
          rintro rfl
          exact nodup.1 List.mem_cons_self
        simp [apart]
    · rw [List.head?_cons, if_neg (by simpa using leaves),
        List.erase_cons_tail (by simpa using leaves), List.head?_cons]

theorem remove (player : Player) :
    Attended maxPlayers (history ++ [(.removePlayer (some player), true)])
      (room.remove player) where
  sound := attended.sound.remove player
  limit := attended.limit
  roster := by
    rw [List.map_append]
    exact attended.roster.leave player
  owner := attended.updateOwnerOnLeave

omit [DecidableEq Player] in
theorem refused (next : Call Player) : Attended maxPlayers (history ++ [(next, false)]) room where
  sound := attended.sound
  limit := attended.limit
  roster := by
    have neither : visit (next, false) = .neither := by
      cases next <;> simp [visit]
    rw [List.map_append, List.map_singleton, neither]
    exact attended.roster.neither
  owner := attended.owner

theorem call (next : Call Player) :
    Attended maxPlayers (history ++ [(next, (room.call next).2)]) (room.call next).1 := by
  cases next with
  | addPlayer player =>
    rcases room.addPlayer_cases player with ⟨joining, rfl, roomy, absent, added⟩ | same
    · simp only [CRoom.call, added]
      exact attended.append roomy absent
    · simp only [CRoom.call, same]
      exact attended.refused _
  | removePlayer player =>
    rcases room.removePlayer_cases player with ⟨leaving, rfl, _, removed⟩ | same
    · simp only [CRoom.call, removed]
      exact attended.remove leaving
    · simp only [CRoom.call, same]
      exact attended.refused _

end Attended

/-- After any calls the members are those present, oldest first, and the oldest one is the owner. -/
theorem members_in_order {maxPlayers : Int32} (positive : 1 ≤ maxPlayers) (roomId : Int32)
    (title : List UInt8) (calls : List (Call Player)) :
    let answered := transcript call (new roomId title maxPlayers : CRoom Player) calls
    let room := answered.1
    (∀ members, room.players = members ↔
      Roster ((calls.zip answered.2).map visit) members) ∧
    room.players.Nodup ∧
    room.currentPlayers.toInt = room.players.length ∧
    room.currentPlayers ≤ maxPlayers ∧
    room.owner = room.players.head? ∧
    (room.owner = none ↔ room.players = []) ∧
    ∀ next, (room.call next).2 = false → (room.call next).1 = room := by
  intro answered room
  have started : Attended maxPlayers [] (new roomId title maxPlayers : CRoom Player) :=
    Attended.new_attended roomId title (Int32.lt_of_lt_of_le (by decide) positive)
  have attended : Attended maxPlayers (calls.zip answered.2) room :=
    transcript_history (fun _ _ next attended => attended.call next) started calls
  have counted := attended.sound.toInt_currentPlayers
  refine ⟨fun members => ⟨fun same => same ▸ attended.roster, attended.roster.unique⟩,
    attended.sound.nodup, counted, ?_, attended.owner, ?_, room.call_refused⟩
  · have fits := attended.sound.fits
    rw [attended.limit] at fits
    rw [Int32.le_iff_toInt_le, counted]
    exact fits
  · rw [attended.owner, List.head?_eq_none_iff]

-- Player 1 leaves the room to player 2 and comes back behind it.
theorem members_in_order_rejoined :
    let room := (transcript call (new 1 [97] 2 : CRoom Nat)
      [.addPlayer (some 1), .addPlayer (some 2), .addPlayer (some 3), .removePlayer (some 1),
        .addPlayer (some 1)]).1
    room.owner = room.players.head? ∧ room.players = [2, 1] := by
  intro room
  have all := members_in_order (by decide : (1 : Int32) ≤ 2) 1 [97]
    [.addPlayer (some 1), .addPlayer (some 2), .addPlayer (some 3), .removePlayer (some 1),
      .addPlayer (some (1 : Nat))]
  exact ⟨all.2.2.2.2.1, by decide⟩

end CRoom

end MiniGames
