import MiniGames.Rooms.Requests
import Mathlib.Data.List.TakeWhile

set_option autoImplicit false

namespace MiniGames

open CCentralizedServer

theorem cString_no_zero (bytes : List UInt8) : 0 ∉ cString bytes := by
  intro member
  have differs := List.mem_takeWhile_imp member
  simp at differs

theorem cString_terminated {bytes : List UInt8} (clean : 0 ∉ bytes) (rest : List UInt8) :
    cString (bytes ++ 0 :: rest) = bytes := by
  induction bytes with
  | nil => rfl
  | cons byte bytes ih =>
    have nonzero : byte ≠ 0 := fun zero => clean (zero ▸ List.mem_cons_self)
    have later : 0 ∉ bytes := fun member => clean (List.mem_cons_of_mem _ member)
    rw [List.cons_append, cString, List.takeWhile_cons_of_pos (by simpa using nonzero)]
    exact congrArg _ (ih later)

theorem cString_clean {bytes : List UInt8} (clean : 0 ∉ bytes) : cString bytes = bytes := by
  apply List.takeWhile_eq_self_iff.mpr
  intro byte member
  simp only [ne_eq, decide_not, Bool.not_eq_eq_eq_not, Bool.not_true, decide_eq_false_iff_not]
  intro zero
  rw [zero] at member
  exact clean member

theorem CharArray.strncpy_bytes {count : Nat} (dest : CharArray (count + 1)) (source : List UInt8) :
    ∃ rest, (dest.strncpy source).bytes = (cString source).take count ++ 0 :: rest := by
  have fits : ((cString source).take count).length ≤ count := List.length_take_le ..
  simp only [strncpy]
  generalize (cString source).take count = copied at fits
  rw [List.set_append_right _ _ fits]
  cases count - copied.length with
  | zero => exact ⟨_, rfl⟩
  | succ more => exact ⟨_, rfl⟩

theorem CharArray.cString_strncpy {count : Nat} (dest : CharArray (count + 1))
    (source : List UInt8) : cString (dest.strncpy source).bytes = (cString source).take count := by
  obtain ⟨rest, same⟩ := dest.strncpy_bytes source
  rw [same]
  apply cString_terminated
  intro member
  exact cString_no_zero source (List.mem_of_mem_take member)

theorem CharArray.strncpy_terminated {count : Nat} (dest : CharArray (count + 1))
    (source : List UInt8) : 0 ∈ (dest.strncpy source).bytes := by
  obtain ⟨rest, same⟩ := dest.strncpy_bytes source
  rw [same]
  exact List.mem_append_right _ List.mem_cons_self

namespace ClientMessage

theorem headerSize_encode (message : ClientMessage) : headerSize message.encode = message.size := by
  rw [encode, headerSize_header, Nat.mod_eq_of_lt message.size_lt]

theorem headerType_encode (message : ClientMessage) :
    headerType message.encode = some message.type :=
  headerType_header ..

theorem request_encode (message : ClientMessage) :
    Request message.encode message.type message.size :=
  ⟨message.encode_length, message.headerSize_encode, message.headerType_encode⟩

theorem dispatched_encode (message : ClientMessage) :
    dispatched message.encode = some message.type := by
  have request := message.request_encode
  cases message <;>
    simp [dispatched, request.length, request.size, request.type, type, size, sizeofMsgHeader,
      sizeofCreateRoom, sizeofJoinRoom, sizeofLeaveRoom, typedHeader]

theorem requestedRoomId_encode (roomId : Int32) :
    requestedRoomId (joinRoom roomId).encode = roomId := by
  have read := readInt32_int32Bytes (header_length sizeofJoinRoom .c2sJoinRoom) roomId []
  rw [List.append_nil] at read
  exact read

theorem requestedMaxPlayers_encode (title : CharArray 64) (maxPlayers : Int32) :
    requestedMaxPlayers (createRoom title maxPlayers).encode = maxPlayers := by
  have offset : (header sizeofCreateRoom .c2sCreateRoom ++ title.bytes).length = 68 := by
    simp [title.sized]
  have read := readInt32_int32Bytes offset maxPlayers []
  rw [List.append_nil, List.append_assoc] at read
  exact read

theorem titleField_encode (title : CharArray 64) (maxPlayers : Int32) :
    (((createRoom title maxPlayers).encode.drop sizeofMsgHeader).take 64) = title.bytes := by
  have skipped : (createRoom title maxPlayers).encode.drop sizeofMsgHeader =
      title.bytes ++ int32Bytes maxPlayers := List.drop_left' (header_length ..)
  rw [skipped]
  exact List.take_left' title.sized

theorem requestedTitle_encode {title : CharArray 64} (terminated : 0 ∈ title.bytes)
    (maxPlayers : Int32) : requestedTitle (createRoom title maxPlayers).encode =
      cString title.bytes := by
  have field := titleField_encode title maxPlayers
  rw [requestedTitle_eq (field.symm ▸ terminated), fieldTitle, field]

end ClientMessage

namespace CCentralizedServer

theorem dispatch_create (stale : Stale) {server : CCentralizedServer} {event : NetworkEvent}
    {player : CPlayer} {title : CharArray 64} {maxPlayers : Int32}
    (received : event.type = .received) (known : server.getPlayer event.sessionId = some player)
    (sent : event.data = (ClientMessage.createRoom title maxPlayers).encode)
    (terminated : 0 ∈ title.bytes)
    (valid : validParameters (cString title.bytes) maxPlayers = true)
    (unused : server.roomManager.findRoomByTitle (cString title.bytes) = none) :
    (dispatch stale server event).1 = server.withRooms
      (createAndJoin server.roomManager (cString title.bytes) maxPlayers player).1 := by
  have routed := ClientMessage.dispatched_encode (.createRoom title maxPlayers)
  have read := ClientMessage.requestedTitle_encode terminated maxPlayers
  have limit := ClientMessage.requestedMaxPlayers_encode title maxPlayers
  rw [dispatch_request stale received known, sent]
  simp only [handleRequest, routed, ClientMessage.type]
  rcases handleCreateRoom_cases stale server player
    (ClientMessage.createRoom title maxPlayers).encode with ⟨_, _, handled⟩ | ⟨invalid, _, _⟩
  · rw [handled, read, limit]
  · rw [read, limit] at invalid
    exact absurd ⟨valid, unused⟩ invalid

end CCentralizedServer

end MiniGames
