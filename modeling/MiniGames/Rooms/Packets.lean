import MiniGames.Rooms.Requests
import MiniGames.Shared.Packed

set_option autoImplicit false

namespace MiniGames

open Packed LittleEndian

namespace CharArray

variable {count : Nat}

-- The stores of strncpy_s, and the one into the last byte.
theorem strncpy_stores (dest : CharArray (count + 1)) (source : List UInt8) :
    (dest.strncpy source).bytes =
      store (store dest.bytes 0 ((cString source).take count ++ [0])) count [0] := by
  have fits : ((cString source).take count).length ≤ count := List.length_take_le ..
  have sized := dest.sized
  simp only [strncpy]
  generalize (cString source).take count = copied at fits
  have inside : count < (copied ++ 0 :: dest.bytes.drop (copied.length + 1)).length := by
    simp only [List.length_append, List.length_cons, List.length_drop]
    omega
  rw [List.set_eq_take_append_cons_drop, if_pos inside]
  simp [store]

theorem strncpy_stale (dest : CharArray (count + 1)) {source : List UInt8}
    (short : (cString source).length + 1 < count) :
    (dest.strncpy source).bytes[(cString source).length + 1]? =
      dest.bytes[(cString source).length + 1]? := by
  have whole : (cString source).take count = cString source :=
    List.take_of_length_le (by omega)
  simp only [strncpy, whole]
  rw [List.getElem?_set_ne (by omega), List.getElem?_append_right (Nat.le_succ _)]
  simp

theorem strncpy_full (dest : CharArray (count + 1)) {source : List UInt8}
    (long : count ≤ (cString source).length + 1) : (dest.strncpy source).bytes =
      ((cString source).take count ++ [0]).take count ++ [0] := by
  have covers : count ≤ ((cString source).take count ++ [0]).length := by
    simp only [List.length_append, List.length_take, List.length_singleton]
    omega
  have fits : 0 + ((cString source).take count ++ [0]).length ≤ dest.bytes.length := by
    simp only [List.length_append, List.length_take, List.length_singleton, dest.sized]
    omega
  rw [strncpy_stores]
  generalize (cString source).take count ++ [0] = text at covers fits
  have kept : (store dest.bytes 0 text).take count = text.take count := by
    rw [store, List.take_zero, List.nil_append, List.take_append_of_le_length covers]
  have rest : (store dest.bytes 0 text).drop (count + 1) = [] := by
    apply List.drop_of_length_le
    rw [store_length fits, dest.sized]
  rw [store, kept, List.length_singleton, rest, List.append_nil]

/-- A string array holds nothing stale if and only if its text leaves no byte between its two
terminators. -/
theorem strncpy_eq_iff {source : List UInt8} :
    (∀ first second : CharArray (count + 1), first.strncpy source = second.strncpy source) ↔
      count ≤ (cString source).length + 1 := by
  constructor
  · intro same
    by_contra short
    have short : (cString source).length + 1 < count := Nat.not_le.mp short
    have zeros := strncpy_stale (.zeros (count + 1)) short
    have ones := strncpy_stale ⟨.replicate (count + 1) 1, List.length_replicate⟩ short
    rw [same (.zeros (count + 1)) ⟨.replicate (count + 1) 1, List.length_replicate⟩, ones] at zeros
    have inside : (cString source).length + 1 < count + 1 := by omega
    simp [CharArray.zeros, inside] at zeros
  · intro long first second
    have same := (first.strncpy_full long).trans (second.strncpy_full long).symm
    exact eq_of_bytes same

end CharArray

-- What the stack holds where SendRoomCreated and the others place their structs.
structure Locals where
  roomCreated : CharArray sizeofRoomCreated
  roomJoined : CharArray sizeofRoomJoined
  roomLeft : CharArray sizeofRoomLeft
  error : CharArray sizeofError

-- The `message` of SendError's struct.
def Locals.message (locals : Locals) : Stale where
  bytes := locals.error.bytes.drop sizeofMsgHeader
  sized := by
    rw [List.length_drop, locals.error.sized]
    rfl

-- A stack that holds the given bytes there.
def Locals.holding (stale : Stale) : Locals where
  roomCreated := .zeros _
  roomJoined := .zeros _
  roomLeft := .zeros _
  error := ⟨.replicate sizeofMsgHeader 0 ++ stale.bytes, by simp [stale.sized]; rfl⟩

theorem Locals.message_holding (stale : Stale) : (holding stale).message = stale := by
  have bytes : (holding stale).message.bytes = stale.bytes :=
    List.drop_left' List.length_replicate
  exact CharArray.eq_of_bytes bytes

def RoomInfo.members (info : RoomInfo) : List (List UInt8) :=
  [int32Bytes info.roomId, info.title.bytes, int32Bytes info.currentPlayers,
    int32Bytes info.maxPlayers, [info.status]]

namespace ServerMessage

def bodyMembers : ServerMessage → List (List UInt8)
  | roomList rooms => int32Bytes (Int32.ofNat rooms.length) :: rooms.flatMap RoomInfo.members
  | roomCreated roomId success => [int32Bytes roomId, [boolByte success]]
  | roomJoined roomId success => [int32Bytes roomId, [boolByte success]]
  | roomLeft success => [[boolByte success]]
  | error message => [message.bytes]

-- The members that a Send function stores, in the order of the struct.
def members (message : ServerMessage) : List (List UInt8) :=
  split 2 message.size :: split 2 message.type.code :: message.bodyMembers

-- SendRoomList fills a vector of zeros.
def memory (locals : Locals) : ServerMessage → List UInt8
  | roomList rooms => .replicate (roomList rooms).size 0
  | roomCreated _ _ => locals.roomCreated.bytes
  | roomJoined _ _ => locals.roomJoined.bytes
  | roomLeft _ => locals.roomLeft.bytes
  | error _ => locals.error.bytes

def fill (locals : Locals) (message : ServerMessage) : List UInt8 :=
  storeAll message.members 0 (message.memory locals)

theorem members_flatten (message : ServerMessage) : message.members.flatten = message.encode := by
  cases message with
  | roomList rooms =>
    have entries : (rooms.flatMap RoomInfo.members).flatten = rooms.flatMap RoomInfo.encode := by
      rw [List.flatMap_def, List.flatten_flatten, List.map_map, List.flatMap_def]
      congr 2
      funext info
      simp [RoomInfo.members, RoomInfo.encode]
    simp [members, bodyMembers, encode, body, header, entries]
  | roomCreated | roomJoined | roomLeft | error =>
    simp [members, bodyMembers, encode, body, header]

theorem memory_length (locals : Locals) (message : ServerMessage) :
    (message.memory locals).length = message.size := by
  cases message with
  | roomList rooms => exact List.length_replicate
  | roomCreated | roomJoined | roomLeft | error => exact CharArray.sized _

theorem fill_eq_encode (locals : Locals) (message : ServerMessage) :
    message.fill locals = message.encode := by
  have whole : (message.memory locals).length = message.members.flatten.length := by
    rw [message.memory_length, message.members_flatten, message.encode_length]
  rw [fill, storeAll_whole whole, message.members_flatten]

end ServerMessage

namespace CCentralizedServer

-- What the game thread passes to RequestSendMsg for an event.
def packets (locals : Locals) (server : CCentralizedServer) (event : NetworkEvent) :
    List (SessionId × List UInt8) :=
  (dispatch locals.message server event).2.map fun sent => (sent.1, sent.2.fill locals)

def Independent (server : CCentralizedServer) (event : NetworkEvent) : Prop :=
  ∀ first second : Locals, packets first server event = packets second server event

-- The CREATE_ROOM or JOIN_ROOM of a player that gets an ERROR for it.
def Refuses (server : CCentralizedServer) (player : CPlayer) (data : List UInt8) : Prop :=
  match dispatched data with
  | some .c2sCreateRoom =>
      ¬ (validParameters (requestedTitle data) (requestedMaxPlayers data) = true ∧
        server.roomManager.findRoomByTitle (requestedTitle data) = none ∧
        server.roomManager.playerToRoomMap.lookup player = none)
  | some .c2sJoinRoom =>
      ∀ ptr, ¬ server.roomManager.Joinable (requestedRoomId data) player ptr
  | _ => False

def errorTexts : List (List UInt8) := [invalidParameters, titleExists, createdNotJoined, notJoined]

-- The replies of a handler as functions of the stale bytes: they end with an ERROR, or do not use
-- them.
def Errs (player : CPlayer) (replies : Stale → List Sent) : Prop :=
  ∃ first, ∃ text ∈ errorTexts, ∀ stale, replies stale = [first, sendError stale player text]

def Constant (replies : Stale → List Sent) : Prop := ∀ first second, replies first = replies second

section Replies

theorem accepted_replies (server : CCentralizedServer) (player : CPlayer) {data : List UInt8}
    (valid : validParameters (requestedTitle data) (requestedMaxPlayers data) = true)
    (unused : server.roomManager.findRoomByTitle (requestedTitle data) = none) (stale : Stale) :
    let created := createAndJoin server.roomManager (requestedTitle data)
      (requestedMaxPlayers data) player
    (handleCreateRoom stale server player data).2 =
      sendRoomCreated player server.roomManager.roomIdCounter created.2 ::
        if created.2 then [] else [sendError stale player createdNotJoined] := by
  rcases handleCreateRoom_cases stale server player data with ⟨_, _, handled⟩ | ⟨invalid, _⟩
  · rw [handled]
  · exact absurd ⟨valid, unused⟩ invalid

theorem create_replies (server : CCentralizedServer) (player : CPlayer) {data : List UInt8}
    (routed : dispatched data = some .c2sCreateRoom) :
    (Refuses server player data ∧
      Errs player fun stale => (handleCreateRoom stale server player data).2) ∨
    (¬ Refuses server player data ∧
      Constant fun stale => (handleCreateRoom stale server player data).2) := by
  simp only [Refuses, routed]
  by_cases valid : validParameters (requestedTitle data) (requestedMaxPlayers data) = true
  · cases used : server.roomManager.findRoomByTitle (requestedTitle data) with
    | some ptr =>
      refine .inl ⟨by simp, sendRoomCreated player (-1) false, titleExists,
        by simp [errorTexts], fun stale => ?_⟩
      simp [handleCreateRoom, valid, used]
    | none =>
      have replies := accepted_replies server player valid used
      have joined : (createAndJoin server.roomManager (requestedTitle data)
          (requestedMaxPlayers data) player).2 = true ↔
            server.roomManager.playerToRoomMap.lookup player = none :=
        createAndJoin_success (positive_of_valid valid)
      cases placed : server.roomManager.playerToRoomMap.lookup player with
      | none =>
        refine .inr ⟨by simp [valid], fun first second => ?_⟩
        simp only [replies, joined.mpr placed, if_true]
      | some roomId =>
        have refused : (createAndJoin server.roomManager (requestedTitle data)
            (requestedMaxPlayers data) player).2 = false := by
          rw [placed] at joined
          simpa using joined
        refine .inl ⟨by simp, sendRoomCreated player server.roomManager.roomIdCounter false,
          createdNotJoined, by simp [errorTexts], fun stale => ?_⟩
        simp [replies, refused]
  · refine .inl ⟨by simp [valid], sendRoomCreated player (-1) false, invalidParameters,
      by simp [errorTexts], fun stale => ?_⟩
    simp [handleCreateRoom, valid]

theorem request_replies (server : CCentralizedServer) (player : CPlayer) (data : List UInt8) :
    (Refuses server player data ∧
      Errs player fun stale => (handleRequest stale server player data).2) ∨
    (¬ Refuses server player data ∧
      Constant fun stale => (handleRequest stale server player data).2) := by
  cases routed : dispatched data with
  | none => exact .inr ⟨by simp [Refuses, routed], fun _ _ => by simp [handleRequest, routed]⟩
  | some type =>
    cases type with
    | c2sCreateRoom =>
      simp only [handleRequest, routed]
      exact create_replies server player routed
    | c2sJoinRoom =>
      simp only [handleRequest, routed, Refuses, handleJoinRoom]
      rcases server.roomManager.joinRoom_cases (requestedRoomId data) (some player) with
        ⟨_, ptr, same, joinable, joined⟩ | ⟨never, refused⟩
      · cases same
        rw [joined]
        exact .inr ⟨fun refuses => refuses ptr joinable, fun _ _ => rfl⟩
      · rw [refused]
        exact .inl ⟨fun ptr => never player ptr rfl, _, notJoined, by simp [errorTexts],
          fun _ => rfl⟩
    | _ => exact .inr ⟨by simp [Refuses, routed], fun _ _ => by simp [handleRequest, routed]⟩

variable {server : CCentralizedServer} {event : NetworkEvent}

theorem packets_eq (locals : Locals) : packets locals server event =
    (dispatch locals.message server event).2.map fun sent => (sent.1, sent.2.encode) := by
  simp only [packets, ServerMessage.fill_eq_encode]

theorem Constant.independent
    (constant : Constant fun stale => (dispatch stale server event).2) :
    Independent server event := by
  intro first second
  have same : (dispatch first.message server event).2 = (dispatch second.message server event).2 :=
    constant first.message second.message
  rw [packets_eq, packets_eq, same]

theorem errorTexts_short {text : List UInt8} (member : text ∈ errorTexts) :
    (cString text).length + 1 < 255 := by
  revert text
  decide +kernel

theorem Errs.dependent {player : CPlayer}
    (errs : Errs player fun stale => (dispatch stale server event).2) :
    ¬ Independent server event := by
  intro independent
  obtain ⟨first, text, member, replies⟩ := errs
  have short := errorTexts_short member
  have same : ∀ before after : Stale, before.strncpy text = after.strncpy text := by
    intro before after
    have packets := independent (.holding before) (.holding after)
    simp only [packets_eq, Locals.message_holding, replies, sendError, List.map_cons, List.map_nil,
      List.cons.injEq, Prod.mk.injEq, and_true, true_and, ServerMessage.encode, ServerMessage.size,
      ServerMessage.type, ServerMessage.body, List.append_cancel_left_eq] at packets
    exact CharArray.eq_of_bytes packets
  have long := CharArray.strncpy_eq_iff.mp same
  omega

/-- The packets of an event carry nothing stale if and only if none of them is an ERROR. -/
theorem independent_iff (server : CCentralizedServer) (event : NetworkEvent) :
    Independent server event ↔ ∀ player, event.type = .received →
      server.getPlayer event.sessionId = some player → ¬ Refuses server player event.data := by
  cases type : event.type with
  | connected | disconnected =>
    apply iff_of_true
    · apply Constant.independent
      intro first second
      simp only [dispatch, type]
    · intro player received
      cases received
  | received =>
    cases known : server.getPlayer event.sessionId with
    | none =>
      apply iff_of_true
      · apply Constant.independent
        intro first second
        simp only [dispatch, type, dispatchDataReceived, known]
      · intro player _ other
        cases other
    | some player =>
      have handled (stale : Stale) : (dispatch stale server event).2 =
          (handleRequest stale server player event.data).2 := by
        rw [dispatch_request stale type known]
      rcases request_replies server player event.data with ⟨refuses, errs⟩ | ⟨accepts, constant⟩
      · simp only [← handled] at errs
        apply iff_of_false errs.dependent
        intro never
        exact never player rfl rfl refuses
      · simp only [← handled] at constant
        apply iff_of_true constant.independent
        intro other _ same
        cases same
        exact accepts

end Replies

end CCentralizedServer

end MiniGames
