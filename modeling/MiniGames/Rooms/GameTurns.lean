import MiniGames.Rooms.CentralizedServer
import MiniGames.Rooms.RegistryEffects

set_option autoImplicit false

namespace MiniGames.CCentralizedServer

def withRooms (server : CCentralizedServer) (manager : CRoomManager CPlayer) :
    CCentralizedServer :=
  { server with roomManager := manager }

@[simp] theorem withRooms_getPlayer (server : CCentralizedServer) (manager : CRoomManager CPlayer)
    (sessionId : SessionId) :
    (server.withRooms manager).getPlayer sessionId = server.getPlayer sessionId := rfl

-- CreateRoom and the JoinRoom of its creator.
def createAndJoin (manager : CRoomManager CPlayer) (title : List UInt8) (maxPlayers : Int32)
    (player : CPlayer) : CRoomManager CPlayer × Bool :=
  (manager.createRoom title maxPlayers).1.joinRoom manager.roomIdCounter (some player)

inductive Turn (server : CCentralizedServer) (event : NetworkEvent) : CCentralizedServer → Prop
  | connect (connected : event.type = .connected) :
      Turn server event (server.dispatchClientConnected event.sessionId).1
  | ignore (gone : event.type = .disconnected) (unknown : server.getPlayer event.sessionId = none) :
      Turn server event server
  | disconnect {player : CPlayer} (gone : event.type = .disconnected)
      (known : server.getPlayer event.sessionId = some player) :
      Turn server event
        ((server.withRooms (server.roomManager.leaveRoom (some player)).1).removePlayer
          event.sessionId)
  | idle (received : event.type = .received) : Turn server event server
  | create {player : CPlayer} (received : event.type = .received)
      (known : server.getPlayer event.sessionId = some player) {title : List UInt8}
      {maxPlayers : Int32} (valid : validParameters title maxPlayers = true)
      (unused : server.roomManager.findRoomByTitle title = none) :
      Turn server event
        (server.withRooms (createAndJoin server.roomManager title maxPlayers player).1)
  | join {player : CPlayer} (received : event.type = .received)
      (known : server.getPlayer event.sessionId = some player) (roomId : Int32) :
      Turn server event (server.withRooms (server.roomManager.joinRoom roomId (some player)).1)
  | leave {player : CPlayer} (received : event.type = .received)
      (known : server.getPlayer event.sessionId = some player) :
      Turn server event (server.withRooms (server.roomManager.leaveRoom (some player)).1)

theorem handleCreateRoom_cases (stale : Stale) (server : CCentralizedServer) (player : CPlayer)
    (data : List UInt8) :
    (validParameters (requestedTitle data) (requestedMaxPlayers data) = true ∧
      server.roomManager.findRoomByTitle (requestedTitle data) = none ∧
      handleCreateRoom stale server player data =
        (server.withRooms (createAndJoin server.roomManager (requestedTitle data)
            (requestedMaxPlayers data) player).1,
          sendRoomCreated player server.roomManager.roomIdCounter
              (createAndJoin server.roomManager (requestedTitle data) (requestedMaxPlayers data)
                player).2 ::
            if (createAndJoin server.roomManager (requestedTitle data) (requestedMaxPlayers data)
                player).2
            then [] else [sendError stale player createdNotJoined])) ∨
    (¬ (validParameters (requestedTitle data) (requestedMaxPlayers data) = true ∧
        server.roomManager.findRoomByTitle (requestedTitle data) = none) ∧
      ∃ message, handleCreateRoom stale server player data =
        (server, [sendRoomCreated player (-1) false, sendError stale player message])) := by
  simp only [handleCreateRoom]
  split
  · next invalid => exact .inr ⟨fun fine => invalid fine.1, _, rfl⟩
  · next valid =>
    have valid := of_not_not valid
    split
    · next used =>
      apply Or.inr
      constructor
      · intro fine
        rw [fine.2] at used
        cases used
      · exact ⟨_, rfl⟩
    · next unused =>
      apply Or.inl
      rw [CRoomManager.createRoom_id]
      exact ⟨valid, Option.not_isSome_iff_eq_none.mp unused, rfl⟩

theorem handleRequest_turn (stale : Stale) (server : CCentralizedServer) {event : NetworkEvent}
    {player : CPlayer} (received : event.type = .received)
    (known : server.getPlayer event.sessionId = some player) :
    Turn server event (handleRequest stale server player event.data).1 := by
  simp only [handleRequest]
  split
  · exact .idle received
  · rcases handleCreateRoom_cases stale server player event.data with
      ⟨valid, unused, handled⟩ | ⟨_, _, handled⟩
    · rw [handled]
      exact .create received known valid unused
    · rw [handled]
      exact .idle received
  · exact .join received known (requestedRoomId event.data)
  · exact .leave received known
  · exact .idle received

theorem dispatch_turn (stale : Stale) (server : CCentralizedServer) (event : NetworkEvent) :
    Turn server event (dispatch stale server event).1 := by
  simp only [dispatch]
  split
  · next connected => exact .connect connected
  · next gone =>
    simp only [dispatchClientDisconnected]
    split
    · next unknown => exact .ignore gone unknown
    · next known => exact .disconnect gone known
  · next received =>
    simp only [dispatchDataReceived]
    split
    · exact .idle received
    · next known => exact handleRequest_turn stale server received known

theorem createAndJoin_allocated (manager : CRoomManager CPlayer) (title : List UInt8)
    (maxPlayers : Int32) (player : CPlayer) :
    (createAndJoin manager title maxPlayers player).1.allocated = manager.allocated + 1 :=
  CRoomManager.joinRoom_allocated ..

theorem Turn.allocated_le {server next : CCentralizedServer} {event : NetworkEvent}
    (turn : Turn server event next) :
    server.roomManager.allocated ≤ next.roomManager.allocated := by
  cases turn with
  | connect | ignore | idle => exact Nat.le_refl _
  | disconnect gone known =>
    exact Nat.le_of_eq (CRoomManager.leaveRoom_allocated server.roomManager (some _)).symm
  | create received known valid unused =>
    rw [withRooms, createAndJoin_allocated]
    exact Nat.le_succ _
  | join received known roomId => exact Nat.le_of_eq (CRoomManager.joinRoom_allocated ..).symm
  | leave received known => exact Nat.le_of_eq (CRoomManager.leaveRoom_allocated ..).symm

end MiniGames.CCentralizedServer
