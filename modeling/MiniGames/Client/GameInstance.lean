import MiniGames.Rooms.Messages

set_option autoImplicit false

namespace MiniGames.Client

structure RoomPlayer where
  isMe : Bool
  isPresent : Bool
  name : List UInt8
  deriving DecidableEq, Repr

structure CRoom where
  inRoom : Bool
  roomId : Int32
  title : List UInt8
  maxPlayers : Int32
  players : List RoomPlayer
  pendingTitle : List UInt8
  pendingMaxPlayers : Int32
  deriving DecidableEq

-- What the uninitialised `char title[64]` of RequestCreateRoom holds.
abbrev StaleTitle := CharArray 64

namespace CRoom

def new : CRoom :=
  { inRoom := false
    roomId := -1
    title := []
    maxPlayers := 0
    players := []
    pendingTitle := []
    pendingMaxPlayers := 0 }

-- The requests, with the message that CClientNetwork passes to SendPacket.
def requestRoomList (room : CRoom) : CRoom × ClientMessage := (room, .requestRoomList)

def requestCreateRoom (stale : StaleTitle) (room : CRoom) (title : List UInt8)
    (maxPlayers : Int32) : CRoom × ClientMessage :=
  ({ room with
      pendingTitle := title
      pendingMaxPlayers := maxPlayers }, .createRoom (stale.strncpy title) maxPlayers)

def requestJoinRoom (room : CRoom) (roomId : Int32) : CRoom × ClientMessage :=
  (room, .joinRoom roomId)

def requestLeaveRoom (room : CRoom) : CRoom × ClientMessage := (room, .leaveRoom)

-- The player itself and nine places for others.
def initPlayers (room : CRoom) : CRoom :=
  { room with
    players := ⟨true, true, [89, 111, 117]⟩ :: List.replicate 9 ⟨false, false, []⟩ }

def onRoomCreated (room : CRoom) (roomId : Int32) : CRoom :=
  initPlayers { room with
    inRoom := true
    roomId := roomId
    title := room.pendingTitle
    maxPlayers := room.pendingMaxPlayers }

def onRoomJoined (room : CRoom) (roomId : Int32) : CRoom :=
  initPlayers { room with
    inRoom := true
    roomId := roomId }

def onRoomLeft (room : CRoom) : CRoom :=
  { room with
    inRoom := false
    roomId := -1
    title := []
    maxPlayers := 0
    players := [] }

end CRoom

-- The functions of CGameInstance that HandleServerMessage calls.
inductive Handler where
  | onRoomListReceived
  | onRoomCreated
  | onRoomJoined
  | onRoomLeft
  | onError
  deriving DecidableEq, Repr

-- `msg->roomId`, and whether the byte `msg->success` at the given offset is not 0.
def messageRoomId (message : List UInt8) : Int32 := readInt32 message sizeofMsgHeader

def messageSuccess (message : List UInt8) (offset : Nat) : Bool := message.getD offset 0 ≠ 0

/-- What the handlers do to the room; the list of rooms and the errors are only displayed. -/
def Handler.run (room : CRoom) (message : List UInt8) : Handler → CRoom
  | onRoomListReceived => room
  | onRoomCreated =>
      if messageSuccess message (sizeofMsgHeader + 4) then
        room.onRoomCreated (messageRoomId message)
      else room
  | onRoomJoined =>
      if messageSuccess message (sizeofMsgHeader + 4) then
        room.onRoomJoined (messageRoomId message)
      else room
  | onRoomLeft => if messageSuccess message sizeofMsgHeader then room.onRoomLeft else room
  | onError => room

end MiniGames.Client
