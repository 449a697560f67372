import MiniGames.Client.Reading

set_option autoImplicit false

namespace MiniGames

open LittleEndian Client

inductive HeaderMember where
  | size
  | type
  deriving DecidableEq, Repr

-- A copy of Protocol.h, by the members of its MsgHeader, which have two bytes each.
structure ProtocolCopy where
  members : List HeaderMember

def ClientMessage.Same : ClientMessage → ClientMessage → Prop
  | requestRoomList, requestRoomList => True
  | createRoom title maxPlayers, createRoom other limit =>
      cString title.bytes = cString other.bytes ∧ maxPlayers = limit
  | joinRoom roomId, joinRoom other => roomId = other
  | leaveRoom, leaveRoom => True
  | _, _ => False

structure RoomInfo.Same (info other : RoomInfo) : Prop where
  roomId : info.roomId = other.roomId
  title : cString info.title.bytes = cString other.title.bytes
  currentPlayers : info.currentPlayers = other.currentPlayers
  maxPlayers : info.maxPlayers = other.maxPlayers
  status : info.status = other.status

def ServerMessage.Same : ServerMessage → ServerMessage → Prop
  | roomList rooms, roomList others => List.Forall₂ RoomInfo.Same rooms others
  | roomCreated roomId success, roomCreated other answer => roomId = other ∧ success = answer
  | roomJoined roomId success, roomJoined other answer => roomId = other ∧ success = answer
  | roomLeft success, roomLeft answer => success = answer
  | error message, error other => cString message.bytes = cString other.bytes
  | _, _ => False

namespace ProtocolCopy

def server : ProtocolCopy := ⟨[.size]⟩

def client : ProtocolCopy := ⟨[.size, .type]⟩

variable (copy : ProtocolCopy)

def headerSizeof : Nat := 2 * copy.members.length

-- A store to a member that the struct does not have puts nothing into the message.
def headerBytes (size : Nat) (type : MsgType) : List UInt8 :=
  copy.members.flatMap fun
    | .size => split 2 size
    | .type => split 2 type.code

-- `none` where the struct has no such member.
def member (bytes : List UInt8) (name : HeaderMember) : Option Nat :=
  (copy.members.idxOf? name).map fun position => field bytes (2 * position) 2

def encodeRequest (message : ClientMessage) : List UInt8 :=
  copy.headerBytes (copy.headerSizeof + message.body.length) message.type ++ message.body

def encodeReply (message : ServerMessage) : List UInt8 :=
  copy.headerBytes (copy.headerSizeof + message.body.length) message.type ++ message.body

def readText (size : Nat) (bytes : List UInt8) (offset : Nat) : CharArray size :=
  ⟨(bytes.drop offset).takeD size 0, List.takeD_length ..⟩

-- What the handlers of the server read of a message of the given type, after the header.
def readRequest (bytes : List UInt8) : MsgType → Option ClientMessage
  | .c2sRequestRoomList => some .requestRoomList
  | .c2sCreateRoom =>
      if bytes.length ≥ copy.headerSizeof + 68 then
        some (.createRoom (readText 64 bytes copy.headerSizeof)
          (readInt32 bytes (copy.headerSizeof + 64)))
      else none
  | .c2sJoinRoom =>
      if bytes.length ≥ copy.headerSizeof + 4 then
        some (.joinRoom (readInt32 bytes copy.headerSizeof))
      else none
  | .c2sLeaveRoom => some .leaveRoom
  | _ => none

-- DispatchDataReceived.
def decodeRequest (bytes : List UInt8) : Option ClientMessage :=
  if bytes.length < copy.headerSizeof then none
  else do
    let size ← copy.member bytes .size
    let type ← copy.member bytes .type
    if size ≠ bytes.length then none
    else (MsgType.ofCode type).bind (copy.readRequest bytes)

def readRoom (bytes : List UInt8) (i : Nat) : RoomInfo :=
  RoomInfo.decode ((bytes.drop (copy.headerSizeof + 4 + sizeofRoomInfo * i)).take sizeofRoomInfo)

-- What the handlers of the client read; a list is read if its entries lie in the message.
def readReply (bytes : List UInt8) : MsgType → Option ServerMessage
  | .s2cRoomList =>
      let roomCount := (readInt32 bytes copy.headerSizeof).toNatClampNeg
      if bytes.length ≥ copy.headerSizeof + 4 + sizeofRoomInfo * roomCount then
        some (.roomList ((List.range roomCount).map (copy.readRoom bytes)))
      else none
  | .s2cRoomCreated =>
      if bytes.length ≥ copy.headerSizeof + 5 then
        some (.roomCreated (readInt32 bytes copy.headerSizeof)
          (messageSuccess bytes (copy.headerSizeof + 4)))
      else none
  | .s2cRoomJoined =>
      if bytes.length ≥ copy.headerSizeof + 5 then
        some (.roomJoined (readInt32 bytes copy.headerSizeof)
          (messageSuccess bytes (copy.headerSizeof + 4)))
      else none
  | .s2cRoomLeft =>
      if bytes.length ≥ copy.headerSizeof + 1 then
        some (.roomLeft (messageSuccess bytes copy.headerSizeof))
      else none
  | .s2cError =>
      if bytes.length ≥ copy.headerSizeof + 256 then
        some (.error (readText 256 bytes copy.headerSizeof))
      else none
  | _ => none

-- HandleServerMessage.
def decodeReply (bytes : List UInt8) : Option ServerMessage :=
  if bytes.length < copy.headerSizeof then none
  else do
    let size ← copy.member bytes .size
    let type ← copy.member bytes .type
    if size > bytes.length then none
    else (MsgType.ofCode type).bind (copy.readReply bytes)

def RequestAgrees (sender receiver : ProtocolCopy) (message : ClientMessage) : Prop :=
  ∃ decoded, receiver.decodeRequest (sender.encodeRequest message) = some decoded ∧
    message.Same decoded

def ReplyAgrees (sender receiver : ProtocolCopy) (message : ServerMessage) : Prop :=
  ∃ decoded, receiver.decodeReply (sender.encodeReply message) = some decoded ∧
    message.Same decoded

variable {copy}

@[simp] theorem headerBytes_length (size : Nat) (type : MsgType) :
    (copy.headerBytes size type).length = copy.headerSizeof := by
  obtain ⟨members⟩ := copy
  simp only [headerBytes, headerSizeof]
  induction members with
  | nil => rfl
  | cons name rest ih =>
    rw [List.flatMap_cons, List.length_append, ih, List.length_cons]
    cases name <;> simp only [split_length] <;> omega

theorem encodeReply_length (message : ServerMessage) :
    (copy.encodeReply message).length = copy.headerSizeof + message.body.length := by
  rw [encodeReply, List.length_append, headerBytes_length]

theorem client_encodeRequest (message : ClientMessage) :
    client.encodeRequest message = message.encode := by
  have size : client.headerSizeof + message.body.length = message.size := by
    rw [← message.encode_length, ClientMessage.encode, List.length_append, header_length]
    rfl
  rw [encodeRequest, size]
  rfl

theorem client_encodeReply (message : ServerMessage) :
    client.encodeReply message = message.encode := by
  have size : client.headerSizeof + message.body.length = message.size := by
    rw [← message.encode_length, ServerMessage.encode, List.length_append, header_length]
    rfl
  rw [encodeReply, size]
  rfl

theorem client_members (size : Nat) (type : MsgType) (body : List UInt8) :
    client.member (header size type ++ body) .size = some (size % 2 ^ 16) ∧
      client.member (header size type ++ body) .type = some type.code := by
  constructor
  · rw [← headerSize_header size type body, headerSize_eq_field]
    rfl
  · have read : field (header size type ++ body) 2 2 = type.code := by
      rw [header, List.append_assoc, field_split (split_length 2 size),
        Nat.mod_eq_of_lt type.code_lt]
    rw [← read]
    rfl

theorem client_readRequest (message : ClientMessage) :
    client.readRequest message.encode message.type = some message := by
  have length := message.encode_length
  cases message with
  | requestRoomList | leaveRoom => rfl
  | createRoom title maxPlayers =>
    have limit := ClientMessage.requestedMaxPlayers_encode title maxPlayers
    have text : readText 64 (ClientMessage.createRoom title maxPlayers).encode sizeofMsgHeader =
        title := by
      apply CharArray.eq_of_bytes
      have skipped : (ClientMessage.createRoom title maxPlayers).encode.drop sizeofMsgHeader =
          title.bytes ++ int32Bytes maxPlayers := List.drop_left' (header_length ..)
      simp only [readText, skipped]
      exact List.takeD_left' title.sized
    have long : (ClientMessage.createRoom title maxPlayers).encode.length ≥
        client.headerSizeof + 68 := Nat.le_of_eq length.symm
    rw [ClientMessage.type, readRequest, if_pos long]
    exact congrArg₂ (fun text limit => some (ClientMessage.createRoom text limit)) text limit
  | joinRoom roomId =>
    have read := ClientMessage.requestedRoomId_encode roomId
    have long : (ClientMessage.joinRoom roomId).encode.length ≥ client.headerSizeof + 4 :=
      Nat.le_of_eq length.symm
    rw [ClientMessage.type, readRequest, if_pos long]
    exact congrArg (fun roomId => some (ClientMessage.joinRoom roomId)) read

theorem typed_request_read (message : ClientMessage) :
    client.decodeRequest (client.encodeRequest message) = some message := by
  obtain ⟨size, type⟩ := client_members message.size message.type message.body
  have whole : ¬ message.encode.length < client.headerSizeof := by
    rw [ClientMessage.encode, List.length_append, header_length]
    exact Nat.not_lt.mpr (Nat.le_add_right ..)
  have stated : message.size % 2 ^ 16 = message.encode.length := by
    rw [Nat.mod_eq_of_lt message.size_lt, message.encode_length]
  rw [← ClientMessage.encode] at size type
  rw [client_encodeRequest, decodeRequest, if_neg whole, size, type]
  simp only [Option.bind_eq_bind, Option.bind_some, stated, ne_eq, not_true_eq_false, if_false,
    MsgType.ofCode_code, client_readRequest]

theorem client_readRooms (rooms : List RoomInfo) :
    (List.range rooms.length).map (client.readRoom (ServerMessage.roomList rooms).encode) =
      rooms := by
  have decoded := roomInfos_decoded rooms []
  rw [List.append_nil] at decoded
  exact decoded

theorem client_readReply (message : ServerMessage)
    (counted : ∀ rooms, message = .roomList rooms → rooms.length < 2 ^ 31) :
    client.readReply message.encode message.type = some message := by
  have length := message.encode_length
  cases message with
  | roomList rooms =>
    have count : (readInt32 (ServerMessage.roomList rooms).encode client.headerSizeof) =
        Int32.ofNat rooms.length := readInt32_int32Bytes (header_length ..) ..
    have listed := Int32.toNatClampNeg_ofNat_of_lt (counted rooms rfl)
    have long : (ServerMessage.roomList rooms).encode.length ≥
        client.headerSizeof + 4 + sizeofRoomInfo * rooms.length := Nat.le_of_eq length.symm
    simp only [ServerMessage.type, readReply, count, listed, if_pos long, client_readRooms]
  | roomCreated roomId success =>
    have long : (ServerMessage.roomCreated roomId success).encode.length ≥
        client.headerSizeof + 5 := Nat.le_of_eq length.symm
    have id := messageRoomId_encode sizeofRoomCreated .s2cRoomCreated roomId [boolByte success]
    have answer := messageSuccess_room sizeofRoomCreated .s2cRoomCreated roomId success
    rw [ServerMessage.type, readReply, if_pos long]
    exact congrArg₂ (fun id answer => some (ServerMessage.roomCreated id answer)) id answer
  | roomJoined roomId success =>
    have long : (ServerMessage.roomJoined roomId success).encode.length ≥
        client.headerSizeof + 5 := Nat.le_of_eq length.symm
    have id := messageRoomId_encode sizeofRoomJoined .s2cRoomJoined roomId [boolByte success]
    have answer := messageSuccess_room sizeofRoomJoined .s2cRoomJoined roomId success
    rw [ServerMessage.type, readReply, if_pos long]
    exact congrArg₂ (fun id answer => some (ServerMessage.roomJoined id answer)) id answer
  | roomLeft success =>
    have long : (ServerMessage.roomLeft success).encode.length ≥ client.headerSizeof + 1 :=
      Nat.le_of_eq length.symm
    have answer : messageSuccess (ServerMessage.roomLeft success).encode client.headerSizeof =
        success := messageSuccess_encode (header_length ..) success
    rw [ServerMessage.type, readReply, if_pos long, answer]
  | error message =>
    have start : client.headerSizeof = 4 := rfl
    have long : (ServerMessage.error message).encode.length ≥ client.headerSizeof + 256 := by
      rw [length, start]
      exact Nat.le_refl 260
    have text : readText 256 (ServerMessage.error message).encode client.headerSizeof =
        message := by
      apply CharArray.eq_of_bytes
      have skipped : (ServerMessage.error message).encode.drop 4 = message.bytes :=
        List.drop_left' (header_length ..)
      have whole : (message.bytes ++ []).takeD 256 0 = message.bytes :=
        List.takeD_left' message.sized
      rw [List.append_nil] at whole
      simp only [readText, start, skipped, whole]
    rw [ServerMessage.type, readReply, if_pos long, text]

theorem typed_reply_read (message : ServerMessage)
    (counted : ∀ rooms, message = .roomList rooms → rooms.length < 2 ^ 31) :
    client.decodeReply (client.encodeReply message) = some message := by
  obtain ⟨size, type⟩ := client_members message.size message.type message.body
  have whole : ¬ message.encode.length < client.headerSizeof := by
    rw [ServerMessage.encode, List.length_append, header_length]
    exact Nat.not_lt.mpr (Nat.le_add_right ..)
  have stated : ¬ message.size % 2 ^ 16 > message.encode.length := by
    rw [message.encode_length]
    exact Nat.not_lt.mpr (Nat.mod_le ..)
  rw [← ServerMessage.encode] at size type
  rw [client_encodeReply, decodeReply, if_neg whole, size, type]
  simp only [Option.bind_eq_bind, Option.bind_some, stated, if_false, MsgType.ofCode_code,
    client_readReply message counted]

theorem decodeRequest_typed {bytes : List UInt8} {message : ClientMessage}
    (decoded : copy.decodeRequest bytes = some message) : HeaderMember.type ∈ copy.members := by
  simp only [decodeRequest] at decoded
  split at decoded
  · cases decoded
  · obtain ⟨size, _, decoded⟩ := Option.bind_eq_some_iff.mp decoded
    obtain ⟨type, told, _⟩ := Option.bind_eq_some_iff.mp decoded
    by_contra missing
    rw [member, List.idxOf?_eq_none_iff.mpr missing] at told
    cases told

theorem roomInfos_body (rooms : List RoomInfo) :
    (ServerMessage.roomList rooms).body.length = 4 + sizeofRoomInfo * rooms.length := by
  rw [ServerMessage.body, List.length_append, int32Bytes_length, roomInfos_length]

theorem readReply_fits {bytes : List UInt8} {type : MsgType} {message : ServerMessage}
    (read : copy.readReply bytes type = some message) :
    copy.headerSizeof + message.body.length ≤ bytes.length := by
  cases type with
  | s2cRoomList =>
    simp only [readReply] at read
    split at read
    · next long =>
      cases read
      rw [roomInfos_body, List.length_map, List.length_range]
      omega
    · cases read
  | s2cRoomCreated | s2cRoomJoined | s2cRoomLeft | s2cError =>
    simp only [readReply] at read
    split at read
    · next long =>
      cases read
      simp only [ServerMessage.body, List.length_append, int32Bytes_length, List.length_singleton,
        CharArray.sized]
      omega
    · cases read
  | _ => cases read

theorem decodeReply_fits {bytes : List UInt8} {message : ServerMessage}
    (decoded : copy.decodeReply bytes = some message) :
    copy.headerSizeof + message.body.length ≤ bytes.length := by
  simp only [decodeReply] at decoded
  split at decoded
  · cases decoded
  · obtain ⟨size, _, decoded⟩ := Option.bind_eq_some_iff.mp decoded
    obtain ⟨type, _, decoded⟩ := Option.bind_eq_some_iff.mp decoded
    split at decoded
    · cases decoded
    · obtain ⟨type, _, read⟩ := Option.bind_eq_some_iff.mp decoded
      exact readReply_fits read

theorem same_body_length {message other : ServerMessage} (same : message.Same other) :
    message.body.length = other.body.length := by
  cases message with
  | roomList rooms =>
    cases other with
    | roomList others => rw [roomInfos_body, roomInfos_body, List.Forall₂.length_eq same]
    | _ => cases same
  | roomCreated roomId success =>
    cases other with
    | roomCreated => simp only [ServerMessage.body, List.length_append, int32Bytes_length,
        List.length_singleton]
    | _ => cases same
  | roomJoined roomId success =>
    cases other with
    | roomJoined => simp only [ServerMessage.body, List.length_append, int32Bytes_length,
        List.length_singleton]
    | _ => cases same
  | roomLeft success =>
    cases other with
    | roomLeft => rfl
    | _ => cases same
  | error message =>
    cases other with
    | error text => rw [ServerMessage.body, ServerMessage.body, message.sized, text.sized]
    | _ => cases same

/-- No message of either side reaches the other. -/
theorem copies_disagree (request : ClientMessage) (reply : ServerMessage) :
    ¬ RequestAgrees client server request ∧ ¬ ReplyAgrees server client reply := by
  constructor
  · rintro ⟨decoded, read, _⟩
    have typed := decodeRequest_typed read
    exact absurd typed (by decide)
  · rintro ⟨decoded, read, same⟩
    have long := decodeReply_fits read
    rw [encodeReply_length, same_body_length same] at long
    have shorter : server.headerSizeof < client.headerSizeof := by decide
    omega

-- A JOIN_ROOM of room 1.
theorem joinRoom_lost : ¬ ∀ request, RequestAgrees client server request := by
  intro agrees
  obtain ⟨decoded, read, _⟩ := agrees (.joinRoom 1)
  have lost : server.decodeRequest (client.encodeRequest (.joinRoom 1)) = none := by
    decide +kernel
  rw [lost] at read
  cases read

end ProtocolCopy

end MiniGames
