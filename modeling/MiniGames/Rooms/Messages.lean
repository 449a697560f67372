import MiniGames.Network.Protocol
import MiniGames.Shared.LittleEndian

set_option autoImplicit false

namespace MiniGames

open LittleEndian

inductive MsgType where
  | c2sRequestRoomList
  | s2cRoomList
  | c2sCreateRoom
  | s2cRoomCreated
  | c2sJoinRoom
  | s2cRoomJoined
  | c2sLeaveRoom
  | s2cRoomLeft
  | s2cError
  deriving DecidableEq, Repr

def MsgType.code : MsgType → Nat
  | .c2sRequestRoomList => 1000
  | .s2cRoomList => 1001
  | .c2sCreateRoom => 1002
  | .s2cRoomCreated => 1003
  | .c2sJoinRoom => 1004
  | .s2cRoomJoined => 1005
  | .c2sLeaveRoom => 1006
  | .s2cRoomLeft => 1007
  | .s2cError => 1008

-- The field holds any 16-bit value; `none` is the default case of a switch.
def MsgType.ofCode : Nat → Option MsgType
  | 1000 => some .c2sRequestRoomList
  | 1001 => some .s2cRoomList
  | 1002 => some .c2sCreateRoom
  | 1003 => some .s2cRoomCreated
  | 1004 => some .c2sJoinRoom
  | 1005 => some .s2cRoomJoined
  | 1006 => some .c2sLeaveRoom
  | 1007 => some .s2cRoomLeft
  | 1008 => some .s2cError
  | _ => none

@[simp] theorem MsgType.ofCode_code (type : MsgType) : ofCode type.code = some type := by
  cases type <;> rfl

theorem MsgType.code_lt (type : MsgType) : type.code < 256 ^ 2 := by
  cases type <;> decide

def sizeofMsgHeader : Nat := typedHeader.sizeofMsgHeader
def sizeofRoomInfo : Nat := 77
def sizeofRoomList : Nat := 8
def sizeofCreateRoom : Nat := 72
def sizeofRoomCreated : Nat := 9
def sizeofJoinRoom : Nat := 8
def sizeofRoomJoined : Nat := 9
def sizeofLeaveRoom : Nat := 4
def sizeofRoomLeft : Nat := 5
def sizeofError : Nat := 260

def headerType (bytes : List UInt8) : Option MsgType := MsgType.ofCode (field bytes 2 2)

def readInt32 (bytes : List UInt8) (offset : Nat) : Int32 := Int32.ofNat (field bytes offset 4)

def int32Bytes (value : Int32) : List UInt8 := split 4 value.toUInt32.toNat

-- What `std::string` reads from a `const char*`, up to the end of the packet.
def cString (bytes : List UInt8) : List UInt8 := bytes.takeWhile (· ≠ 0)

structure CharArray (size : Nat) where
  bytes : List UInt8
  sized : bytes.length = size
  deriving DecidableEq

theorem CharArray.eq_of_bytes {size : Nat} {first second : CharArray size}
    (same : first.bytes = second.bytes) : first = second := by
  cases first
  cases second
  cases same
  rfl

-- strncpy_s with the count `sizeof(dest) - 1`, and the store of 0 into the last byte.
def CharArray.strncpy {count : Nat} (dest : CharArray (count + 1)) (source : List UInt8) :
    CharArray (count + 1) :=
  let copied := (cString source).take count
  { bytes := (copied ++ 0 :: dest.bytes.drop (copied.length + 1)).set count 0
    sized := by
      have fits : copied.length ≤ count := List.length_take_le ..
      have sized := dest.sized
      simp only [List.length_set, List.length_append, List.length_cons, List.length_drop]
      omega }

def CharArray.zeros (size : Nat) : CharArray size := ⟨.replicate size 0, List.length_replicate⟩

structure RoomInfo where
  roomId : Int32
  title : CharArray 64
  currentPlayers : Int32
  maxPlayers : Int32
  status : UInt8
  deriving DecidableEq

inductive ServerMessage where
  | roomList (rooms : List RoomInfo)
  | roomCreated (roomId : Int32) (success : Bool)
  | roomJoined (roomId : Int32) (success : Bool)
  | roomLeft (success : Bool)
  | error (message : CharArray 256)
  deriving DecidableEq

inductive ClientMessage where
  | requestRoomList
  | createRoom (title : CharArray 64) (maxPlayers : Int32)
  | joinRoom (roomId : Int32)
  | leaveRoom
  deriving DecidableEq

-- The size is cast to `uint16_t`.
def header (size : Nat) (type : MsgType) : List UInt8 := split 2 size ++ split 2 type.code

def RoomInfo.encode (info : RoomInfo) : List UInt8 :=
  int32Bytes info.roomId ++ info.title.bytes ++ int32Bytes info.currentPlayers ++
    int32Bytes info.maxPlayers ++ [info.status]

def boolByte (value : Bool) : UInt8 := if value then 1 else 0

namespace ServerMessage

def type : ServerMessage → MsgType
  | roomList _ => .s2cRoomList
  | roomCreated _ _ => .s2cRoomCreated
  | roomJoined _ _ => .s2cRoomJoined
  | roomLeft _ => .s2cRoomLeft
  | error _ => .s2cError

def size : ServerMessage → Nat
  | roomList rooms => sizeofRoomList + sizeofRoomInfo * rooms.length
  | roomCreated _ _ => sizeofRoomCreated
  | roomJoined _ _ => sizeofRoomJoined
  | roomLeft _ => sizeofRoomLeft
  | error _ => sizeofError

def body : ServerMessage → List UInt8
  | roomList rooms => int32Bytes (Int32.ofNat rooms.length) ++ rooms.flatMap RoomInfo.encode
  | roomCreated roomId success => int32Bytes roomId ++ [boolByte success]
  | roomJoined roomId success => int32Bytes roomId ++ [boolByte success]
  | roomLeft success => [boolByte success]
  | error message => message.bytes

def encode (message : ServerMessage) : List UInt8 :=
  header message.size message.type ++ message.body

end ServerMessage

namespace ClientMessage

def type : ClientMessage → MsgType
  | requestRoomList => .c2sRequestRoomList
  | createRoom _ _ => .c2sCreateRoom
  | joinRoom _ => .c2sJoinRoom
  | leaveRoom => .c2sLeaveRoom

def size : ClientMessage → Nat
  | requestRoomList => sizeofMsgHeader
  | createRoom _ _ => sizeofCreateRoom
  | joinRoom _ => sizeofJoinRoom
  | leaveRoom => sizeofLeaveRoom

def body : ClientMessage → List UInt8
  | requestRoomList => []
  | createRoom title maxPlayers => title.bytes ++ int32Bytes maxPlayers
  | joinRoom roomId => int32Bytes roomId
  | leaveRoom => []

def encode (message : ClientMessage) : List UInt8 :=
  header message.size message.type ++ message.body

end ClientMessage

@[simp] theorem int32Bytes_length (value : Int32) : (int32Bytes value).length = 4 :=
  split_length ..

@[simp] theorem header_length (size : Nat) (type : MsgType) : (header size type).length = 4 := by
  simp [header]

theorem readInt32_int32Bytes {before : List UInt8} {offset : Nat}
    (at_offset : before.length = offset) (value : Int32) (rest : List UInt8) :
    readInt32 (before ++ (int32Bytes value ++ rest)) offset = value := by
  have small : value.toUInt32.toNat % 256 ^ 4 = value.toUInt32.toNat :=
    Nat.mod_eq_of_lt value.toUInt32.toNat_lt
  rw [readInt32, int32Bytes, field_split at_offset, small]
  exact congrArg Int32.ofUInt32 (UInt32.ofNat_toNat)

theorem headerSize_eq_field (bytes : List UInt8) : headerSize bytes = field bytes 0 2 := by
  cases bytes with
  | nil => rfl
  | cons first rest =>
    cases rest with
    | nil => simp [headerSize, field, combine]
    | cons second rest => simp [headerSize, field, combine]

theorem headerSize_header (size : Nat) (type : MsgType) (body : List UInt8) :
    headerSize (header size type ++ body) = size % 2 ^ 16 := by
  have read := field_split (List.length_nil (α := UInt8)) 2 size (split 2 type.code ++ body)
  rw [headerSize_eq_field, header, List.append_assoc]
  exact read

theorem headerType_header (size : Nat) (type : MsgType) (body : List UInt8) :
    headerType (header size type ++ body) = some type := by
  rw [headerType, header, List.append_assoc, field_split (split_length 2 size),
    Nat.mod_eq_of_lt type.code_lt, MsgType.ofCode_code]

theorem RoomInfo.encode_length (info : RoomInfo) : info.encode.length = sizeofRoomInfo := by
  simp [encode, info.title.sized, sizeofRoomInfo]

theorem roomInfos_length (rooms : List RoomInfo) :
    (rooms.flatMap RoomInfo.encode).length = sizeofRoomInfo * rooms.length := by
  induction rooms with
  | nil => rfl
  | cons info rest ih =>
    rw [List.flatMap_cons, List.length_append, ih, info.encode_length, List.length_cons,
      Nat.mul_succ, Nat.add_comm]

@[simp] theorem ServerMessage.encode_length (message : ServerMessage) :
    message.encode.length = message.size := by
  cases message with
  | roomList rooms =>
    simp only [encode, body, List.length_append, header_length, int32Bytes_length,
      roomInfos_length, size, sizeofRoomList]
    omega
  | roomCreated roomId success => simp [encode, body, size, sizeofRoomCreated]
  | roomJoined roomId success => simp [encode, body, size, sizeofRoomJoined]
  | roomLeft success => simp [encode, body, size, sizeofRoomLeft]
  | error message => simp [encode, body, size, sizeofError, message.sized]

@[simp] theorem ClientMessage.encode_length (message : ClientMessage) :
    message.encode.length = message.size := by
  cases message with
  | requestRoomList => rfl
  | createRoom title maxPlayers => simp [encode, body, size, sizeofCreateRoom, title.sized]
  | joinRoom roomId => simp [encode, body, size, sizeofJoinRoom]
  | leaveRoom => simp [encode, body, size, sizeofLeaveRoom]

theorem ClientMessage.size_lt (message : ClientMessage) : message.size < 2 ^ 16 := by
  cases message <;> simp only [size] <;> decide

end MiniGames
