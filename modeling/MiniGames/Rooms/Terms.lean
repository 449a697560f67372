import MiniGames.Rooms.GameTurns

set_option autoImplicit false

namespace MiniGames

/-- The id, the title and the maximum, to which nothing is assigned after the construction. -/
def CRoom.terms {Player : Type} (room : CRoom Player) : Int32 × List UInt8 × Int32 :=
  (room.roomId, room.title, room.maxPlayers)

theorem CRoom.title_of_terms {Player : Type} {room other : CRoom Player}
    (same : room.terms = other.terms) : room.title = other.title :=
  congrArg (fun terms => terms.2.1) same

namespace CRoomManager

variable {Player : Type}

theorem store_terms {manager : CRoomManager Player} {room : Nat} {changed : CRoom Player}
    (same : changed.terms = (manager.rooms room).terms) (ptr : Nat) :
    ((manager.store room changed).rooms ptr).terms = (manager.rooms ptr).terms := by
  simp only [store]
  by_cases there : ptr = room
  · rw [there, Function.update_self, same]
  · rw [Function.update_of_ne there]

theorem createRoom_terms {manager : CRoomManager Player} (title : List UInt8) (maxPlayers : Int32)
    {ptr : Nat} (early : ptr < manager.allocated) :
    ((manager.createRoom title maxPlayers).1.rooms ptr).terms = (manager.rooms ptr).terms := by
  have differs := Nat.ne_of_lt early
  simp [createRoom, store, differs]

variable [DecidableEq Player]

theorem removePlayer_terms (room : CRoom Player) (player : Option Player) :
    (room.removePlayer player).1.terms = room.terms := by
  cases player with
  | none => rfl
  | some player =>
    simp only [CRoom.removePlayer]
    split <;> rfl

theorem vacate_terms (manager : CRoomManager Player) (player : Player) (room ptr : Nat) :
    ((manager.vacate player room).rooms ptr).terms = (manager.rooms ptr).terms :=
  store_terms (removePlayer_terms (manager.rooms room) (some player)) ptr

theorem joinRoom_terms (manager : CRoomManager Player) (roomId : Int32) (player : Option Player)
    (ptr : Nat) :
    ((manager.joinRoom roomId player).1.rooms ptr).terms = (manager.rooms ptr).terms := by
  rcases manager.joinRoom_cases roomId player with ⟨joining, room, _, _, joined⟩ | ⟨_, refused⟩
  · rw [joined]
    have appended : ((manager.rooms room).append joining).terms = (manager.rooms room).terms := rfl
    exact store_terms appended ptr
  · rw [refused]

theorem deleteRoom_terms (manager : CRoomManager Player) (roomId : Int32) (ptr : Nat) :
    ((manager.deleteRoom roomId).1.rooms ptr).terms = (manager.rooms ptr).terms := by
  simp only [deleteRoom]
  split <;> rfl

theorem leaveRoom_terms (manager : CRoomManager Player) (player : Option Player) (ptr : Nat) :
    ((manager.leaveRoom player).1.rooms ptr).terms = (manager.rooms ptr).terms := by
  cases player with
  | none => rfl
  | some player =>
    simp only [leaveRoom]
    split
    · rfl
    · split
      · rfl
      · next room _ =>
        have vacated := manager.vacate_terms player room ptr
        split
        · exact (deleteRoom_terms _ _ ptr).trans vacated
        · exact vacated

end CRoomManager

namespace CCentralizedServer

theorem Turn.terms {server next : CCentralizedServer} {event : NetworkEvent}
    (turn : Turn server event next) {ptr : Nat} (early : ptr < server.roomManager.allocated) :
    (next.roomManager.rooms ptr).terms = (server.roomManager.rooms ptr).terms := by
  cases turn with
  | connect | ignore | idle => rfl
  | disconnect | leave => exact CRoomManager.leaveRoom_terms ..
  | create =>
    exact (CRoomManager.joinRoom_terms ..).trans (CRoomManager.createRoom_terms _ _ early)
  | join => exact CRoomManager.joinRoom_terms ..

end CCentralizedServer

end MiniGames
