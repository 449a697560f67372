import MiniGames.Client.ClientNetwork
import MiniGames.Rooms.Decoding

set_option autoImplicit false

namespace MiniGames.Client

open CCentralizedServer

-- IsInRoom and GetRoomId, or what the server would make them.
abbrev View := Bool × Int32

def CRoom.view (room : CRoom) : View := (room.inRoom, room.roomId)

def placeView : Option Int32 → View
  | some roomId => (true, roomId)
  | none => (false, -1)

def serverView (server : CCentralizedServer) (sessionId : SessionId) : View :=
  placeView ((server.roomManager.findRoomByPlayer (server.getPlayer sessionId)).map fun ptr =>
    (server.roomManager.rooms ptr).roomId)

def receive (room : CRoom) (data : List UInt8) : CRoom :=
  match handleServerMessage data with
  | some handler => handler.run room data
  | none => room

-- What a message tells of the client's own room.
def told (view : View) : ServerMessage → View
  | .roomCreated roomId true => (true, roomId)
  | .roomJoined roomId true => (true, roomId)
  | .roomLeft true => (false, -1)
  | _ => view

theorem messageSuccess_encode {before : List UInt8} {offset : Nat}
    (at_offset : before.length = offset) (success : Bool) :
    messageSuccess (before ++ [boolByte success]) offset = success := by
  have byte : (before ++ [boolByte success]).getD offset 0 = boolByte success := by
    rw [← at_offset]
    simp
  rw [messageSuccess, byte]
  cases success <;> rfl

theorem receive_roomList (room : CRoom) (rooms : List RoomInfo) :
    receive room (ServerMessage.roomList rooms).encode = room := by
  have type : headerType (ServerMessage.roomList rooms).encode = some .s2cRoomList :=
    headerType_header ..
  simp only [receive, handleServerMessage, type]
  split
  · next handler called =>
    split at called
    · cases called
    · split at called
      · cases called
      · split at called
        · cases called
          rfl
        · cases called
  · rfl

theorem receive_encode (room : CRoom) (message : ServerMessage) (fits : message.size < 2 ^ 16) :
    receive room message.encode = (handlerOf message).run room message.encode := by
  simp only [receive, handleServerMessage_encode fits]

theorem messageRoomId_encode (size : Nat) (type : MsgType) (roomId : Int32) (rest : List UInt8) :
    messageRoomId (header size type ++ (int32Bytes roomId ++ rest)) = roomId :=
  readInt32_int32Bytes (header_length size type) roomId rest

theorem messageSuccess_room (size : Nat) (type : MsgType) (roomId : Int32) (success : Bool) :
    messageSuccess (header size type ++ (int32Bytes roomId ++ [boolByte success]))
      (sizeofMsgHeader + 4) = success := by
  rw [← List.append_assoc]
  apply messageSuccess_encode
  simp [sizeofMsgHeader, typedHeader]

theorem receive_view (room : CRoom) (message : ServerMessage) :
    (receive room message.encode).view = told room.view message := by
  cases message with
  | roomList rooms =>
    rw [receive_roomList]
    rfl
  | error text =>
    rw [receive_encode room (.error text) (by decide : sizeofError < 2 ^ 16)]
    rfl
  | roomCreated roomId success =>
    rw [receive_encode room (.roomCreated roomId success)
      (by decide : sizeofRoomCreated < 2 ^ 16)]
    simp only [handlerOf, Handler.run, ServerMessage.encode, ServerMessage.body,
      messageSuccess_room, messageRoomId_encode]
    cases success <;> rfl
  | roomJoined roomId success =>
    rw [receive_encode room (.roomJoined roomId success)
      (by decide : sizeofRoomJoined < 2 ^ 16)]
    simp only [handlerOf, Handler.run, ServerMessage.encode, ServerMessage.body,
      messageSuccess_room, messageRoomId_encode]
    cases success <;> rfl
  | roomLeft success =>
    rw [receive_encode room (.roomLeft success) (by decide : sizeofRoomLeft < 2 ^ 16)]
    have answer : messageSuccess (ServerMessage.roomLeft success).encode sizeofMsgHeader =
        success := messageSuccess_encode (header_length ..) success
    simp only [handlerOf, Handler.run, answer]
    cases success <;> rfl

theorem serverView_unknown {server : CCentralizedServer} {sessionId : SessionId}
    (unknown : server.getPlayer sessionId = none) : serverView server sessionId = (false, -1) := by
  rw [serverView, unknown]
  rfl

theorem serverView_known {server : CCentralizedServer} (consistent : server.roomManager.Consistent)
    {sessionId : SessionId} {player : CPlayer}
    (known : server.getPlayer sessionId = some player) :
    serverView server sessionId = placeView (server.roomManager.playerToRoomMap.lookup player) := by
  rw [serverView, known]
  simp only [CRoomManager.findRoomByPlayer]
  cases placed : server.roomManager.playerToRoomMap.lookup player with
  | none => rfl
  | some roomId =>
    obtain ⟨ptr, seated⟩ := consistent.seated placed
    simp only [seated.found, Option.map_some, (consistent.find seated.found).2]

theorem serverView_other {server next : CCentralizedServer} {event : NetworkEvent}
    (rooted : server.Rooted)
    (turn : CCentralizedServer.Turn server event next)
    (few : next.roomManager.allocated < 2 ^ 31) {sessionId : SessionId}
    (other : sessionId ≠ event.sessionId) :
    serverView next sessionId = serverView server sessionId := by
  have kept := turn.getPlayer_other other
  cases known : server.getPlayer sessionId with
  | none => rw [serverView_unknown known, serverView_unknown (kept.trans known)]
  | some player =>
    have same : player.sessionId ≠ event.sessionId := by
      rw [rooted.ownId _ _ known]
      exact other
    rw [serverView_known rooted.consistent known,
      serverView_known (turn.consistent rooted.consistent few) (kept.trans known),
      rooted.lookup_other turn same]

theorem serverView_connected {server : CCentralizedServer} (rooted : server.Rooted)
    (sessionId : SessionId) :
    serverView (server.dispatchClientConnected sessionId).1 sessionId = (false, -1) := by
  have known := connected_getPlayer server sessionId sessionId
  rw [if_pos rfl] at known
  have consistent : (server.dispatchClientConnected sessionId).1.roomManager.Consistent :=
    rooted.consistent
  have unplaced : server.roomManager.playerToRoomMap.lookup ⟨server.made, sessionId⟩ = none := by
    cases placed : server.roomManager.playerToRoomMap.lookup ⟨server.made, sessionId⟩ with
    | none => rfl
    | some roomId => exact absurd (rooted.seated _ _ placed) (Nat.lt_irrefl _)
  rw [serverView_known consistent known]
  exact congrArg placeView unplaced

inductive Answers (sessionId : SessionId) (before after : View) : List Sent → Prop
  | silent (same : after = before) : Answers sessionId before after []
  | single (message : ServerMessage) (shown : told before message = after) :
      Answers sessionId before after [(sessionId, message)]
  | refused (message : ServerMessage) (text : CharArray 256) (shown : told before message = before)
      (same : after = before) :
      Answers sessionId before after [(sessionId, message), (sessionId, .error text)]

theorem handleRequest_answers (stale : Stale) {server : CCentralizedServer}
    (consistent : server.roomManager.Consistent) (player : CPlayer) (data : List UInt8) :
    Answers player.sessionId (placeView (server.roomManager.playerToRoomMap.lookup player))
      (placeView ((handleRequest stale server player data).1.roomManager.playerToRoomMap.lookup
        player)) (handleRequest stale server player data).2 := by
  simp only [handleRequest]
  split
  · exact .single _ rfl
  · rcases handleCreateRoom_cases stale server player data with
      ⟨valid, unused, handled⟩ | ⟨_, _, handled⟩
    · rw [handled]
      cases placed : server.roomManager.playerToRoomMap.lookup player with
      | none =>
        rw [createAndJoin_accepted placed (positive_of_valid valid)]
        simp only [withRooms, CRoomManager.seat_lookup]
        exact .single _ rfl
      | some roomId =>
        have there : (server.roomManager.playerToRoomMap.lookup player).isSome := by simp [placed]
        rw [createAndJoin_refused there]
        exact .refused _ _ rfl (congrArg placeView placed)
    · rw [handled]
      exact .refused _ _ rfl rfl
  · simp only [handleJoinRoom]
    rcases server.roomManager.joinRoom_cases (requestedRoomId data) (some player) with
      ⟨_, ptr, same, joinable, joined⟩ | ⟨_, refused⟩
    · cases same
      rw [joined]
      simp only [CRoomManager.seat_lookup]
      exact .single _ rfl
    · rw [refused]
      exact .refused _ _ rfl rfl
  · simp only [handleLeaveRoom]
    rcases consistent.leaveRoom_cases (some player) with
      ⟨_, roomId, ptr, same, seated, left⟩ | ⟨_, refused⟩
    · cases same
      rw [left, consistent.depart_players seated, AList.lookup_erase]
      exact .single _ rfl
    · rw [refused]
      exact .single _ rfl
  · exact .silent rfl

theorem Answers.addressed {sessionId : SessionId} {before after : View} {replies : List Sent}
    (answers : Answers sessionId before after replies) (reply : Sent) (member : reply ∈ replies) :
    reply.1 = sessionId := by
  cases answers with
  | silent => cases member
  | single message => rw [List.mem_singleton.mp member]
  | refused message text =>
    rcases List.mem_cons.mp member with rfl | member
    · rfl
    · rw [List.mem_singleton.mp member]

theorem dispatch_addressed (stale : Stale) {server : CCentralizedServer} (rooted : server.Rooted)
    (event : NetworkEvent) (reply : Sent) (member : reply ∈ (dispatch stale server event).2) :
    reply.1 = event.sessionId := by
  cases type : event.type with
  | connected =>
    simp only [dispatch, type, dispatchClientConnected, List.mem_singleton] at member
    rw [member]
    rfl
  | disconnected =>
    simp only [dispatch, type] at member
    cases member
  | received =>
    cases known : server.getPlayer event.sessionId with
    | none =>
      simp only [dispatch, type, dispatchDataReceived, known] at member
      cases member
    | some player =>
      rw [dispatch_request stale type known] at member
      rw [← rooted.ownId _ _ known]
      exact (handleRequest_answers stale rooted.consistent player event.data).addressed reply member

end MiniGames.Client
