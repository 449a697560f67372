import MiniGames.Client.GameInstance
import MiniGames.Rooms.Packets

set_option autoImplicit false

namespace MiniGames

open Packed LittleEndian CCentralizedServer

-- What the stack holds where the Request functions place their structs.
structure ClientLocals where
  header : CharArray sizeofMsgHeader
  createRoom : CharArray sizeofCreateRoom
  joinRoom : CharArray sizeofJoinRoom
  leaveRoom : CharArray sizeofLeaveRoom

namespace ClientLocals

-- The `title` of RequestCreateRoom's struct.
def title (locals : ClientLocals) : Client.StaleTitle where
  bytes := (locals.createRoom.bytes.drop sizeofMsgHeader).take 64
  sized := by
    rw [List.length_take, List.length_drop, locals.createRoom.sized]
    rfl

-- A stack that holds the given bytes there.
def holding (stale : Client.StaleTitle) : ClientLocals where
  header := .zeros _
  createRoom := ⟨.replicate sizeofMsgHeader 0 ++ (stale.bytes ++ .replicate 4 0),
    by simp [stale.sized]; rfl⟩
  joinRoom := .zeros _
  leaveRoom := .zeros _

theorem title_holding (stale : Client.StaleTitle) : (holding stale).title = stale := by
  have bytes : (holding stale).title.bytes = stale.bytes := by
    simp only [title, holding]
    rw [List.drop_left' List.length_replicate]
    exact List.take_left' stale.sized
  exact CharArray.eq_of_bytes bytes

end ClientLocals

namespace ClientMessage

def bodyMembers : ClientMessage → List (List UInt8)
  | requestRoomList => []
  | createRoom title maxPlayers => [title.bytes, int32Bytes maxPlayers]
  | joinRoom roomId => [int32Bytes roomId]
  | leaveRoom => []

def members (message : ClientMessage) : List (List UInt8) :=
  split 2 message.size :: split 2 message.type.code :: message.bodyMembers

def memory (locals : ClientLocals) : ClientMessage → List UInt8
  | requestRoomList => locals.header.bytes
  | createRoom _ _ => locals.createRoom.bytes
  | joinRoom _ => locals.joinRoom.bytes
  | leaveRoom => locals.leaveRoom.bytes

def fill (locals : ClientLocals) (message : ClientMessage) : List UInt8 :=
  storeAll message.members 0 (message.memory locals)

theorem members_flatten (message : ClientMessage) : message.members.flatten = message.encode := by
  cases message <;> simp [members, bodyMembers, encode, body, header]

theorem memory_length (locals : ClientLocals) (message : ClientMessage) :
    (message.memory locals).length = message.size := by
  cases message <;> exact CharArray.sized _

theorem fill_eq_encode (locals : ClientLocals) (message : ClientMessage) :
    message.fill locals = message.encode := by
  have whole : (message.memory locals).length = message.members.flatten.length := by
    rw [message.memory_length, message.members_flatten, message.encode_length]
  rw [fill, storeAll_whole whole, message.members_flatten]

end ClientMessage

namespace Client

inductive Request where
  | roomList
  | createRoom (title : List UInt8) (maxPlayers : Int32)
  | joinRoom (roomId : Int32)
  | leaveRoom

namespace Request

def call (stale : StaleTitle) (room : CRoom) : Request → CRoom × ClientMessage
  | roomList => room.requestRoomList
  | createRoom title maxPlayers => room.requestCreateRoom stale title maxPlayers
  | joinRoom roomId => room.requestJoinRoom roomId
  | leaveRoom => room.requestLeaveRoom

-- What a Request function passes to SendPacket.
def packet (locals : ClientLocals) (room : CRoom) (request : Request) : List UInt8 :=
  (request.call locals.title room).2.fill locals

def Independent (room : CRoom) (request : Request) : Prop :=
  ∀ first second : ClientLocals, request.packet first room = request.packet second room

theorem createRoom_independent (room : CRoom) (title : List UInt8) (maxPlayers : Int32) :
    (createRoom title maxPlayers).Independent room ↔ 62 ≤ (cString title).length := by
  have packet_eq (locals : ClientLocals) : (createRoom title maxPlayers).packet locals room =
      header sizeofCreateRoom .c2sCreateRoom ++
        ((locals.title.strncpy title).bytes ++ int32Bytes maxPlayers) :=
    ClientMessage.fill_eq_encode ..
  have long : 62 ≤ (cString title).length ↔ 63 ≤ (cString title).length + 1 := by omega
  rw [long, ← CharArray.strncpy_eq_iff]
  constructor
  · intro independent first second
    have same := independent (.holding first) (.holding second)
    rw [packet_eq, packet_eq, ClientLocals.title_holding, ClientLocals.title_holding,
      List.append_cancel_left_eq, List.append_cancel_right_eq] at same
    exact CharArray.eq_of_bytes same
  · intro same first second
    rw [packet_eq, packet_eq, same first.title second.title]

theorem independent_iff (room : CRoom) (request : Request) : request.Independent room ↔
    ∀ title maxPlayers, request = .createRoom title maxPlayers → 62 ≤ (cString title).length := by
  cases request with
  | createRoom title maxPlayers =>
    rw [createRoom_independent]
    constructor
    · intro long other limit same
      cases same
      exact long
    · intro long
      exact long title maxPlayers rfl
  | roomList | joinRoom | leaveRoom =>
    apply iff_of_true
    · intro first second
      simp only [packet, ClientMessage.fill_eq_encode]
      rfl
    · intro title maxPlayers other
      cases other

end Request

/-- What both sides send depends on the state and the arguments alone but for two kinds of packets:
an ERROR, and a CREATE_ROOM with a short title. -/
theorem packets_independent_iff (server : CCentralizedServer) (event : NetworkEvent) (room : CRoom)
    (request : Request) :
    (server.Independent event ↔ ∀ player, event.type = .received →
      server.getPlayer event.sessionId = some player → ¬ Refuses server player event.data) ∧
    (request.Independent room ↔
      ∀ title maxPlayers, request = .createRoom title maxPlayers → 62 ≤ (cString title).length) :=
  ⟨CCentralizedServer.independent_iff server event, Request.independent_iff room request⟩

-- The texts "Invalid room parameters" and "a" are shorter than their arrays.
theorem packets_leak : (∃ (server : CCentralizedServer) (event : NetworkEvent),
      ¬ server.Independent event) ∧
    ∃ (room : CRoom) (request : Request), ¬ request.Independent room := by
  constructor
  · let request := ClientMessage.encode (.createRoom ((CharArray.zeros 64).strncpy [97]) 1)
    refine ⟨after (oneVisit.take 1), ⟨.received, 5, request⟩, fun independent => ?_⟩
    have same := independent (.holding (.zeros 256))
      (.holding ⟨.replicate 256 1, List.length_replicate⟩)
    revert same
    decide +kernel
  · refine ⟨.new, .createRoom [97] 2, fun independent => ?_⟩
    have same := independent (.holding (.zeros 64))
      (.holding ⟨.replicate 64 1, List.length_replicate⟩)
    revert same
    decide +kernel

end Client

end MiniGames
