import MiniGames.Client.Views
import MiniGames.Rooms.Decoding
import MiniGames.Shared.Traced

set_option autoImplicit false

namespace MiniGames

open LittleEndian Traced

-- A copy of a `RoomInfo` out of its bytes.
def RoomInfo.decode (bytes : List UInt8) : RoomInfo :=
  { roomId := readInt32 bytes 0
    title := ⟨(bytes.drop 4).takeD 64 0, List.takeD_length ..⟩
    currentPlayers := readInt32 bytes 68
    maxPlayers := readInt32 bytes 72
    status := bytes.getD 76 0 }

theorem RoomInfo.decode_encode (info : RoomInfo) : RoomInfo.decode info.encode = info := by
  obtain ⟨roomId, ⟨title, sized⟩, currentPlayers, maxPlayers, status⟩ := info
  have first := readInt32_int32Bytes (List.length_nil (α := UInt8)) roomId
    (title ++ int32Bytes currentPlayers ++ int32Bytes maxPlayers ++ [status])
  have before : (int32Bytes roomId ++ title).length = 68 := by simp [sized]
  have second := readInt32_int32Bytes before currentPlayers (int32Bytes maxPlayers ++ [status])
  have before : (int32Bytes roomId ++ title ++ int32Bytes currentPlayers).length = 72 := by
    simp [sized]
  have third := readInt32_int32Bytes before maxPlayers [status]
  have text : ((int32Bytes roomId ++ (title ++ (int32Bytes currentPlayers ++
      (int32Bytes maxPlayers ++ [status])))).drop 4).takeD 64 0 = title := by
    rw [List.drop_left' (int32Bytes_length roomId)]
    exact List.takeD_left' sized
  have last : (int32Bytes roomId ++ (title ++ (int32Bytes currentPlayers ++
      (int32Bytes maxPlayers ++ [status])))).getD 76 0 = status := by
    simp only [← List.append_assoc]
    simp [List.getD_eq_getElem?_getD, sized]
  simp only [List.append_assoc, List.nil_append] at first second third
  simp only [RoomInfo.decode, RoomInfo.encode, List.append_assoc, first, second, third, text, last]

namespace Client

-- The room after a handler, with the rooms or the error text that the handler displays.
structure Handled where
  room : CRoom
  rooms : List RoomInfo
  error : List UInt8

namespace CGameInstance

def loadInt32 (memory : List UInt8) (offset : Nat) : Traced Int32 := do
  let bytes ← load memory offset 4
  pure (readInt32 bytes 0)

def loadFlag (memory : List UInt8) (offset : Nat) : Traced Bool := do
  let bytes ← load memory offset 1
  pure (messageSuccess bytes 0)

def loadRoomInfo (memory : List UInt8) (i : Nat) : Traced RoomInfo := do
  let bytes ← load memory (sizeofRoomList + sizeofRoomInfo * i) sizeofRoomInfo
  pure (RoomInfo.decode bytes)

def onRoomListReceived (memory : List UInt8) (room : CRoom) : Traced Handled := do
  let roomCount ← loadInt32 memory sizeofMsgHeader
  let rooms ← forEach (loadRoomInfo memory) (List.range roomCount.toNatClampNeg)
  pure ⟨room, rooms, []⟩

-- OnRoomCreated and OnRoomJoined read the same fields.
def onRoomEntered (enter : CRoom → Int32 → CRoom) (memory : List UInt8) (room : CRoom) :
    Traced Handled := do
  let success ← loadFlag memory (sizeofMsgHeader + 4)
  if success then
    let roomId ← loadInt32 memory sizeofMsgHeader
    pure ⟨enter room roomId, [], []⟩
  else pure ⟨room, [], []⟩

def onRoomCreated : List UInt8 → CRoom → Traced Handled := onRoomEntered CRoom.onRoomCreated

def onRoomJoined : List UInt8 → CRoom → Traced Handled := onRoomEntered CRoom.onRoomJoined

def onRoomLeft (memory : List UInt8) (room : CRoom) : Traced Handled := do
  let success ← loadFlag memory sizeofMsgHeader
  pure ⟨if success then room.onRoomLeft else room, [], []⟩

def onError (memory : List UInt8) (room : CRoom) : Traced Handled := do
  let message ← scan (· ≠ 0) memory sizeofMsgHeader
  pure ⟨room, [], message⟩

end CGameInstance

namespace CClientNetwork

open CGameInstance

def loadField (memory : List UInt8) (offset : Nat) : Traced Nat := do
  let bytes ← load memory offset 2
  pure (combine bytes)

-- The switch of HandleServerMessage.
def callHandler (memory : List UInt8) (length : Nat) (room : CRoom) :
    Option MsgType → Traced Handled
  | some .s2cRoomList =>
      if length ≥ sizeofRoomList then onRoomListReceived memory room else pure ⟨room, [], []⟩
  | some .s2cRoomCreated =>
      if length ≥ sizeofRoomCreated then onRoomCreated memory room else pure ⟨room, [], []⟩
  | some .s2cRoomJoined =>
      if length ≥ sizeofRoomJoined then onRoomJoined memory room else pure ⟨room, [], []⟩
  | some .s2cRoomLeft =>
      if length ≥ sizeofRoomLeft then onRoomLeft memory room else pure ⟨room, [], []⟩
  | some .s2cError => if length ≥ sizeofError then onError memory room else pure ⟨room, [], []⟩
  | _ => pure ⟨room, [], []⟩

def handleServerMessage (memory : List UInt8) (length : Nat) (room : CRoom) : Traced Handled :=
  if length < sizeofMsgHeader then pure ⟨room, [], []⟩
  else do
    let size ← loadField memory 0
    if size > length then pure ⟨room, [], []⟩
    else
      let type ← loadField memory 2
      callHandler memory length room (MsgType.ofCode type)

end CClientNetwork

/-- The message is as long as what its type and its count make the client read. -/
def Covered (data : List UInt8) : Prop :=
  match headerType data with
  | some .s2cRoomList => data.length ≥ sizeofRoomList →
      sizeofRoomList + sizeofRoomInfo * (readInt32 data sizeofMsgHeader).toNatClampNeg ≤
        headerSize data
  | some .s2cRoomCreated => data.length ≥ sizeofRoomCreated → headerSize data ≥ sizeofRoomCreated
  | some .s2cRoomJoined => data.length ≥ sizeofRoomJoined → headerSize data ≥ sizeofRoomJoined
  | some .s2cRoomLeft => data.length ≥ sizeofRoomLeft → headerSize data ≥ sizeofRoomLeft
  | some .s2cError => data.length ≥ sizeofError →
      0 ∈ (data.take (headerSize data)).drop sizeofMsgHeader
  | _ => True

section Reads

open CGameInstance CClientNetwork

variable {memory data : List UInt8} {offset limit : Nat}

@[simp] theorem within_loadInt32 :
    (loadInt32 memory offset).Within limit ↔ offset + 4 ≤ limit := by
  simp [loadInt32]

@[simp] theorem within_loadFlag :
    (loadFlag memory offset).Within limit ↔ offset + 1 ≤ limit := by
  simp [loadFlag]

@[simp] theorem within_loadField :
    (loadField memory offset).Within limit ↔ offset + 2 ≤ limit := by
  simp [loadField]

theorem readInt32_append (inside : offset + 4 ≤ data.length) (beyond : List UInt8) :
    readInt32 (data ++ beyond) offset = readInt32 data offset := by
  rw [readInt32, field_append inside, readInt32]

theorem loadInt32_value (inside : offset + 4 ≤ data.length) (beyond : List UInt8) :
    (loadInt32 (data ++ beyond) offset).value = readInt32 data offset := by
  rw [← readInt32_append inside beyond]
  simp [loadInt32, readInt32, field, List.take_take]

theorem loadFlag_value (inside : offset < data.length) (beyond : List UInt8) :
    (loadFlag (data ++ beyond) offset).value = messageSuccess data offset := by
  simp [loadFlag, messageSuccess, List.getD_eq_getElem?_getD, List.getElem?_append_left inside]

theorem loadField_value (inside : offset + 2 ≤ data.length) (beyond : List UInt8) :
    (loadField (data ++ beyond) offset).value = field data offset 2 :=
  field_append inside beyond

theorem loadSize_value (long : sizeofMsgHeader ≤ data.length) (beyond : List UInt8) :
    (loadField (data ++ beyond) 0).value = headerSize data := by
  rw [headerSize_eq_field, loadField_value (Nat.le_trans (by decide) long)]

theorem loadType_value (long : sizeofMsgHeader ≤ data.length) (beyond : List UInt8) :
    MsgType.ofCode (loadField (data ++ beyond) 2).value = headerType data := by
  rw [headerType, loadField_value long]

theorem within_onRoomListReceived (long : sizeofRoomList ≤ data.length) (beyond : List UInt8)
    (room : CRoom) : (onRoomListReceived (data ++ beyond) room).Within limit ↔
      sizeofRoomList + sizeofRoomInfo * (readInt32 data sizeofMsgHeader).toNatClampNeg ≤ limit := by
  have count : (loadInt32 (data ++ beyond) sizeofMsgHeader).value =
      readInt32 data sizeofMsgHeader := loadInt32_value long beyond
  simp only [onRoomListReceived, within_bind, within_loadInt32, count, within_forEach,
    loadRoomInfo, within_load, within_pure, and_true, List.mem_range]
  generalize (readInt32 data sizeofMsgHeader).toNatClampNeg = roomCount
  constructor
  · rintro ⟨counted, entries⟩
    cases roomCount with
    | zero => exact counted
    | succ last =>
      have entry := entries last (Nat.lt_succ_self last)
      rw [Nat.mul_succ]
      omega
  · intro room
    refine ⟨Nat.le_trans (Nat.le_add_right ..) room, fun i earlier => ?_⟩
    have entry : sizeofRoomInfo * (i + 1) ≤ sizeofRoomInfo * roomCount :=
      Nat.mul_le_mul_left _ earlier
    rw [Nat.mul_succ] at entry
    omega

theorem within_onRoomEntered (enter : CRoom → Int32 → CRoom) (room : CRoom) :
    (onRoomEntered enter memory room).Within limit ↔ sizeofMsgHeader + 5 ≤ limit := by
  simp only [onRoomEntered, within_bind, within_loadFlag]
  constructor
  · rintro ⟨flag, _⟩
    exact flag
  · intro long
    apply And.intro long
    have id : sizeofMsgHeader + 4 ≤ limit := Nat.le_trans (by decide) long
    split <;> simp [id]

theorem within_onError {beyond : List UInt8} {room : CRoom} (long : sizeofMsgHeader ≤ limit)
    (bound : limit ≤ data.length) : (onError (data ++ beyond) room).Within limit ↔
      0 ∈ (data.take limit).drop sizeofMsgHeader := by
  have inside : limit ≤ (data ++ beyond).length := by
    rw [List.length_append]
    omega
  simp only [onError, within_bind, within_scan long inside, within_pure, and_true,
    List.take_append_of_le_length bound]
  simp

theorem within_callHandler (beyond : List UInt8) (room : CRoom)
    (header : sizeofMsgHeader ≤ headerSize data) (whole : headerSize data ≤ data.length) :
    (callHandler (data ++ beyond) data.length room (headerType data)).Within (headerSize data) ↔
      Covered data := by
  cases known : headerType data with
  | none => simp [Covered, callHandler, known]
  | some type =>
    cases type with
    | s2cRoomList =>
      simp only [Covered, callHandler, known]
      split
      · next long => simp [within_onRoomListReceived long, long]
      · next short => simp [short]
    | s2cRoomCreated | s2cRoomJoined =>
      simp only [Covered, callHandler, known]
      split
      · next long =>
        simp only [onRoomCreated, onRoomJoined, within_onRoomEntered, long, true_imp_iff]
        exact Iff.rfl
      · next short => simp [short]
    | s2cRoomLeft =>
      simp only [Covered, callHandler, known]
      split
      · next long =>
        simp only [onRoomLeft, within_bind, within_loadFlag, within_pure, and_true, long,
          true_imp_iff]
        exact Iff.rfl
      · next short => simp [short]
    | s2cError =>
      simp only [Covered, callHandler, known]
      split
      · next long => simp [within_onError header whole, long]
      · next short => simp [short]
    | _ => simp [Covered, callHandler, known]

theorem handleServerMessage_within_iff (data beyond : List UInt8) (room : CRoom) :
    (CClientNetwork.handleServerMessage (data ++ beyond) data.length room).Within
        (headerSize data) ↔
      data.length < sizeofMsgHeader ∨ data.length < headerSize data ∨
        sizeofMsgHeader ≤ headerSize data ∧ Covered data := by
  rw [CClientNetwork.handleServerMessage]
  split
  · next short => simp [short]
  next long =>
  have long : sizeofMsgHeader ≤ data.length := Nat.not_lt.mp long
  have size := loadSize_value long beyond
  have type := loadType_value long beyond
  simp only [within_bind, within_loadField, size]
  split
  · next cut =>
    have header : 4 ≤ data.length := long
    simp only [within_pure, and_true]
    omega
  next whole =>
  have whole : headerSize data ≤ data.length := Nat.not_lt.mp whole
  simp only [within_bind, within_loadField, type]
  constructor
  · rintro ⟨_, header, within⟩
    exact .inr (.inr ⟨header, (within_callHandler beyond room header whole).mp within⟩)
  · rintro (short | cut | ⟨header, covered⟩)
    · omega
    · omega
    · have size : 0 + 2 ≤ headerSize data := Nat.le_trans (by decide) header
      exact ⟨size, header, (within_callHandler beyond room header whole).mpr covered⟩

-- An empty list of rooms that states one room.
theorem handleServerMessage_overrun : ∃ (data beyond : List UInt8) (room : CRoom),
    1 ≤ data.length ∧ data.length ≤ 4096 ∧
    ¬ (CClientNetwork.handleServerMessage (data ++ beyond) data.length room).Within
      (headerSize data) := by
  refine ⟨[8, 0, 233, 3, 1, 0, 0, 0], [], .new, ?_⟩
  decide +kernel

theorem onRoomEntered_room (enter : CRoom → Int32 → CRoom) (long : sizeofMsgHeader + 5 ≤ data.length)
    (beyond : List UInt8) (room : CRoom) :
    (onRoomEntered enter (data ++ beyond) room).value.room =
      if messageSuccess data (sizeofMsgHeader + 4) then enter room (messageRoomId data)
      else room := by
  have flag := loadFlag_value long beyond
  have id := loadInt32_value (Nat.le_of_succ_le long) beyond
  simp only [onRoomEntered, bind_value, flag]
  split
  · simp only [bind_value, pure_value, id]
    rfl
  · rfl

theorem handleServerMessage_room (data beyond : List UInt8) (room : CRoom) :
    (CClientNetwork.handleServerMessage (data ++ beyond) data.length room).value.room =
      receive room data := by
  simp only [CClientNetwork.handleServerMessage, receive, handleServerMessage]
  split
  · rfl
  next long =>
  have long : sizeofMsgHeader ≤ data.length := Nat.not_lt.mp long
  have size := loadSize_value long beyond
  have type := loadType_value long beyond
  simp only [bind_value, size]
  split
  · rfl
  simp only [bind_value, type]
  cases headerType data with
  | none => rfl
  | some type =>
    cases type with
    | s2cRoomCreated | s2cRoomJoined =>
      simp only [callHandler]
      split
      · next long => exact onRoomEntered_room _ long beyond room
      · rfl
    | s2cRoomLeft =>
      simp only [callHandler]
      split
      · next long =>
        have flag := loadFlag_value long beyond
        simp only [onRoomLeft, bind_value, pure_value]
        exact congrArg (if · then room.onRoomLeft else room) flag
      · rfl
    | s2cRoomList | s2cError =>
      simp only [callHandler]
      split
      · rfl
      · rfl
    | _ => rfl

theorem entries_flatMap {Item : Type} {encode : Item → List UInt8} {width : Nat}
    (sized : ∀ item, (encode item).length = width) (items : List Item) (rest : List UInt8) :
    ((List.range items.length).map fun i =>
      ((items.flatMap encode ++ rest).drop (width * i)).take width) = items.map encode := by
  induction items with
  | nil => rfl
  | cons item items ih =>
    have later (i : Nat) : (encode item ++ (items.flatMap encode ++ rest)).drop (width * (i + 1)) =
        (items.flatMap encode ++ rest).drop (width * i) := by
      rw [Nat.mul_succ, Nat.add_comm, ← List.drop_drop, List.drop_left' (sized item)]
    rw [List.length_cons, List.range_succ_eq_map, List.map_cons, List.map_map, List.map_cons,
      List.flatMap_cons, List.append_assoc, Nat.mul_zero, List.drop_zero,
      List.take_left' (sized item), ← ih]
    simp only [Function.comp_def, Nat.succ_eq_add_one, later]

theorem roomInfos_decoded (rooms : List RoomInfo) (beyond : List UInt8) :
    ((List.range rooms.length).map fun i =>
      RoomInfo.decode ((((ServerMessage.roomList rooms).encode ++ beyond).drop
        (sizeofRoomList + sizeofRoomInfo * i)).take sizeofRoomInfo)) = rooms := by
  have start (i : Nat) : ((ServerMessage.roomList rooms).encode ++ beyond).drop
      (sizeofRoomList + sizeofRoomInfo * i) =
        (rooms.flatMap RoomInfo.encode ++ beyond).drop (sizeofRoomInfo * i) := by
    have fixed : (header (ServerMessage.roomList rooms).size .s2cRoomList ++
      int32Bytes (Int32.ofNat rooms.length)).length = sizeofRoomList := by simp [sizeofRoomList]
    rw [← List.drop_drop, ServerMessage.encode, ServerMessage.body, ServerMessage.type,
      ← List.append_assoc, List.append_assoc, List.drop_left' fixed]
  have entries := congrArg (List.map RoomInfo.decode)
    (entries_flatMap RoomInfo.encode_length rooms beyond)
  have decoded : RoomInfo.decode ∘ RoomInfo.encode = id := funext RoomInfo.decode_encode
  rw [List.map_map, List.map_map, decoded, List.map_id] at entries
  simp only [start]
  exact entries

theorem loadRoomInfo_roomList (rooms : List RoomInfo) (beyond : List UInt8) :
    ((List.range rooms.length).map fun i =>
      (loadRoomInfo ((ServerMessage.roomList rooms).encode ++ beyond) i).value) = rooms := by
  simp only [loadRoomInfo, bind_value, load_value, pure_value]
  exact roomInfos_decoded rooms beyond

theorem roomCount_encode {rooms : List RoomInfo}
    (fits : (ServerMessage.roomList rooms).size < 2 ^ 16) :
    (readInt32 (ServerMessage.roomList rooms).encode sizeofMsgHeader).toNatClampNeg =
      rooms.length := by
  have count : readInt32 (ServerMessage.roomList rooms).encode sizeofMsgHeader =
      Int32.ofNat rooms.length := readInt32_int32Bytes (header_length ..) ..
  simp only [ServerMessage.size, sizeofRoomList, sizeofRoomInfo] at fits
  rw [count]
  exact Int32.toNatClampNeg_ofNat_of_lt (by omega)

theorem handleServerMessage_roomList {rooms : List RoomInfo}
    (fits : (ServerMessage.roomList rooms).size < 2 ^ 16) (beyond : List UInt8) (room : CRoom) :
    let packet := (ServerMessage.roomList rooms).encode
    (CClientNetwork.handleServerMessage (packet ++ beyond) packet.length room).value =
        ⟨room, rooms, []⟩ ∧
      (CClientNetwork.handleServerMessage (packet ++ beyond) packet.length room).Within
        packet.length := by
  intro packet
  have count : (readInt32 packet sizeofMsgHeader).toNatClampNeg = rooms.length :=
    roomCount_encode fits
  have length : packet.length = sizeofRoomList + sizeofRoomInfo * rooms.length :=
    ServerMessage.encode_length _
  have stated : headerSize packet = packet.length :=
    (headerSize_header ..).trans ((Nat.mod_eq_of_lt fits).trans length.symm)
  have type : headerType packet = some .s2cRoomList := headerType_header ..
  have list : sizeofRoomList ≤ packet.length := by
    rw [length]
    exact Nat.le_add_right ..
  have long : sizeofMsgHeader ≤ packet.length := Nat.le_trans (by decide) list
  constructor
  · have size := (loadSize_value long beyond).trans stated
    have routed := (loadType_value long beyond).trans type
    have counted : (loadInt32 (packet ++ beyond) sizeofMsgHeader).value =
        readInt32 packet sizeofMsgHeader := loadInt32_value list beyond
    simp only [CClientNetwork.handleServerMessage, Nat.not_lt.mpr long, if_false, bind_value, size,
      gt_iff_lt, Nat.lt_irrefl, routed, callHandler, list, ge_iff_le, if_true, onRoomListReceived,
      counted, count, forEach_value, pure_value]
    exact congrArg (Handled.mk room · []) (loadRoomInfo_roomList rooms beyond)
  · have within := handleServerMessage_within_iff packet beyond room
    rw [stated] at within
    apply within.mpr
    refine .inr (.inr ⟨long, ?_⟩)
    simp only [Covered, type, stated, count, length]
    intro
    exact Nat.le_refl _

end Reads

end Client

end MiniGames
