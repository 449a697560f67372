import MiniGames.Network.Server
import MiniGames.Rooms.Messages
import MiniGames.Rooms.RoomManager

set_option autoImplicit false

namespace MiniGames

-- A `shared_ptr<CPlayer>` is the number of the `make_shared` call with the session id it stored.
structure CPlayer where
  object : Nat
  sessionId : SessionId
  deriving DecidableEq, Repr

structure CCentralizedServer where
  players : AList fun _ : SessionId => CPlayer
  roomManager : CRoomManager CPlayer
  -- The `make_shared<CPlayer>` calls so far.
  made : Nat

-- What RequestSendMsg gets: a session id and a message.
abbrev Sent := SessionId × ServerMessage

-- What the uninitialised `char message[256]` of SendError holds.
abbrev Stale := CharArray 256

def RoomStatus.code : RoomStatus → UInt8
  | .waiting => 0
  | .playing => 1

def roomInfo (room : CRoom CPlayer) : RoomInfo :=
  { roomId := room.roomId
    title := (CharArray.zeros 64).strncpy room.title
    currentPlayers := room.currentPlayers
    maxPlayers := room.maxPlayers
    status := room.status.code }

def textBytes (text : String) : List UInt8 := text.toList.map fun char => UInt8.ofNat char.toNat

def invalidParameters : List UInt8 := textBytes "Invalid room parameters"
def titleExists : List UInt8 := textBytes "Room title already exists"
def createdNotJoined : List UInt8 := textBytes "Failed to join created room"
def notJoined : List UInt8 := textBytes "Failed to join room"

namespace CCentralizedServer

def new : CCentralizedServer :=
  { players := ∅
    roomManager := .new
    made := 0 }

def getPlayer (server : CCentralizedServer) (sessionId : SessionId) : Option CPlayer :=
  server.players.lookup sessionId

def addPlayer (server : CCentralizedServer) (player : CPlayer) : CCentralizedServer :=
  { server with players := server.players.insert player.sessionId player }

def removePlayer (server : CCentralizedServer) (sessionId : SessionId) : CCentralizedServer :=
  { server with players := server.players.erase sessionId }

def sendRoomList (server : CCentralizedServer) (player : CPlayer) : Sent :=
  (player.sessionId, .roomList (server.roomManager.listed.map roomInfo))

def sendRoomCreated (player : CPlayer) (roomId : Int32) (success : Bool) : Sent :=
  (player.sessionId, .roomCreated roomId success)

def sendRoomJoined (player : CPlayer) (roomId : Int32) (success : Bool) : Sent :=
  (player.sessionId, .roomJoined roomId success)

def sendRoomLeft (player : CPlayer) (success : Bool) : Sent :=
  (player.sessionId, .roomLeft success)

def sendError (stale : Stale) (player : CPlayer) (message : List UInt8) : Sent :=
  (player.sessionId, .error (stale.strncpy message))

def handleRequestRoomList (server : CCentralizedServer) (player : CPlayer) :
    CCentralizedServer × List Sent :=
  (server, [server.sendRoomList player])

def validParameters (title : List UInt8) (maxPlayers : Int32) : Bool :=
  ¬ (title = [] ∨ maxPlayers < 2 ∨ maxPlayers > 10)

-- The title that HandleCreateRoom reads at the offset of `msg->title`, and its `maxPlayers`.
def requestedTitle (data : List UInt8) : List UInt8 := cString (data.drop sizeofMsgHeader)

def requestedMaxPlayers (data : List UInt8) : Int32 := readInt32 data (sizeofMsgHeader + 64)

def requestedRoomId (data : List UInt8) : Int32 := readInt32 data sizeofMsgHeader

-- CreateRoom returns no null pointer.
def handleCreateRoom (stale : Stale) (server : CCentralizedServer) (player : CPlayer)
    (data : List UInt8) : CCentralizedServer × List Sent :=
  let title := requestedTitle data
  let maxPlayers := requestedMaxPlayers data
  if ¬ validParameters title maxPlayers then
    (server, [sendRoomCreated player (-1) false, sendError stale player invalidParameters])
  else if (server.roomManager.findRoomByTitle title).isSome then
    (server, [sendRoomCreated player (-1) false, sendError stale player titleExists])
  else
    let created := server.roomManager.createRoom title maxPlayers
    let roomId := (created.1.rooms created.2).roomId
    let joined := created.1.joinRoom roomId (some player)
    ({ server with roomManager := joined.1 },
      sendRoomCreated player roomId joined.2 ::
        if joined.2 then [] else [sendError stale player createdNotJoined])

def handleJoinRoom (stale : Stale) (server : CCentralizedServer) (player : CPlayer)
    (data : List UInt8) : CCentralizedServer × List Sent :=
  let roomId := requestedRoomId data
  let joined := server.roomManager.joinRoom roomId (some player)
  ({ server with roomManager := joined.1 },
    sendRoomJoined player roomId joined.2 ::
      if joined.2 then [] else [sendError stale player notJoined])

def handleLeaveRoom (server : CCentralizedServer) (player : CPlayer) :
    CCentralizedServer × List Sent :=
  let left := server.roomManager.leaveRoom (some player)
  ({ server with roomManager := left.1 }, [sendRoomLeft player left.2])

def dispatchClientConnected (server : CCentralizedServer) (sessionId : SessionId) :
    CCentralizedServer × List Sent :=
  let player : CPlayer := ⟨server.made, sessionId⟩
  let server := { server with made := server.made + 1 }.addPlayer player
  (server, [server.sendRoomList player])

def dispatchClientDisconnected (server : CCentralizedServer) (sessionId : SessionId) :
    CCentralizedServer :=
  match server.getPlayer sessionId with
  | none => server
  | some player =>
      { server with roomManager := (server.roomManager.leaveRoom (some player)).1 }.removePlayer
        sessionId

/-- The request that DispatchDataReceived hands to a handler, if it does. -/
def dispatched (data : List UInt8) : Option MsgType :=
  if data.length < sizeofMsgHeader then none
  else if headerSize data ≠ data.length then none
  else
    match headerType data with
    | some .c2sRequestRoomList =>
        if data.length ≥ sizeofMsgHeader then some .c2sRequestRoomList else none
    | some .c2sCreateRoom => if data.length ≥ sizeofCreateRoom then some .c2sCreateRoom else none
    | some .c2sJoinRoom => if data.length ≥ sizeofJoinRoom then some .c2sJoinRoom else none
    | some .c2sLeaveRoom => some .c2sLeaveRoom
    | _ => none

def handleRequest (stale : Stale) (server : CCentralizedServer) (player : CPlayer)
    (data : List UInt8) : CCentralizedServer × List Sent :=
  match dispatched data with
  | some .c2sRequestRoomList => server.handleRequestRoomList player
  | some .c2sCreateRoom => handleCreateRoom stale server player data
  | some .c2sJoinRoom => handleJoinRoom stale server player data
  | some .c2sLeaveRoom => server.handleLeaveRoom player
  | _ => (server, [])

def dispatchDataReceived (stale : Stale) (server : CCentralizedServer) (sessionId : SessionId)
    (data : List UInt8) : CCentralizedServer × List Sent :=
  match server.getPlayer sessionId with
  | none => (server, [])
  | some player => handleRequest stale server player data

/-- One turn of the loop of GameLogicThread. -/
def dispatch (stale : Stale) (server : CCentralizedServer) (event : NetworkEvent) :
    CCentralizedServer × List Sent :=
  match event.type with
  | .connected => server.dispatchClientConnected event.sessionId
  | .disconnected => (server.dispatchClientDisconnected event.sessionId, [])
  | .received => dispatchDataReceived stale server event.sessionId event.data

end CCentralizedServer

end MiniGames
