import MiniGames.Client.Reading
import MiniGames.Rooms.RoomListing
import MiniGames.Rooms.Titles

set_option autoImplicit false

namespace MiniGames

open Runs CCentralizedServer

namespace Server

variable {env : Environment} {network : Server} {index : Index} {packet : List UInt8}

def Appended (env : Environment) (network : Server) (sessionId : SessionId) (index : Index)
    (packet : List UInt8) : Prop :=
  ((network.requestSendMsg env sessionId (some packet) (sizeToInt packet.length)).sessions
    index).sendQ.contents = (network.sessions index).sendQ.contents ++ packet

instance (sessionId : SessionId) : Decidable (network.Appended env sessionId index packet) :=
  inferInstanceAs (Decidable (_ = _))

-- The send ring holds 65535 bytes at most.
theorem appended_length (reached : Reachable (Server.step env) Always (.start env) network)
    {sessionId : SessionId} (appended : network.Appended env sessionId index packet) :
    packet.length < 2 ^ 16 := by
  have taken : network.step env (.requestSendMsg sessionId (some packet)
      (sizeToInt packet.length)) = some (network.requestSendMsg env sessionId (some packet)
        (sizeToInt packet.length)) := rfl
  have default := (reachable_rings (.step reached trivial taken) index).sendQ
  have filled := default.sound.dataSize_lt
  rw [← CRingBufferT.contents_length, appended, List.length_append, default.capacity] at filled
  omega

end Server

structure RoomInfo.Describes (info : RoomInfo) (room : CRoom CPlayer) : Prop where
  roomId : info.roomId = room.roomId
  title : cString info.title.bytes = room.title.take 63
  currentPlayers : info.currentPlayers = room.currentPlayers
  maxPlayers : info.maxPlayers = room.maxPlayers
  status : info.status = room.status.code

namespace Client

/-- A list of rooms that goes out states its length, and the client reads the rooms out of it, the
newest first, and nothing beyond it. -/
theorem roomList_decoded {env : Environment} {network : Server} {index : Index}
    (inputs : List Input) (player : CPlayer)
    (reached : Reachable (Server.step env) Always (.start env) network)
    (appended : network.Appended env player.sessionId index
      ((after inputs).sendRoomList player).2.encode) (beyond : List UInt8) (room : CRoom) :
    let packet := ((after inputs).sendRoomList player).2.encode
    let handled := CClientNetwork.handleServerMessage (packet ++ beyond) packet.length room
    headerSize packet = packet.length ∧
    List.Forall₂ RoomInfo.Describes handled.value.rooms (after inputs).roomManager.listed ∧
    (after inputs).roomManager.roomList.Pairwise (· > ·) ∧ handled.Within packet.length := by
  have named := after_named inputs
  have fits : (ServerMessage.roomList ((after inputs).roomManager.listed.map roomInfo)).size <
      2 ^ 16 := by
    rw [← ServerMessage.encode_length]
    exact Server.appended_length reached appended
  obtain ⟨decoded, within⟩ := handleServerMessage_roomList fits beyond room
  intro packet handled
  refine ⟨?_, ?_, named.aged.decreasing, within⟩
  · have stated : headerSize packet = packet.length % 2 ^ 16 := by
      rw [ServerMessage.encode_length]
      exact headerSize_header ..
    rw [stated, Nat.mod_eq_of_lt (Server.appended_length reached appended)]
  · have rooms : handled.value.rooms = (after inputs).roomManager.listed.map roomInfo :=
      congrArg Handled.rooms decoded
    rw [rooms]
    apply List.forall₂_map_left_iff.mpr
    apply List.forall₂_same.mpr
    intro listed member
    have clean := named.clean listed.title (List.mem_map_of_mem member)
    exact ⟨rfl, cString_roomInfo clean, rfl, rfl, rfl⟩

-- Two rooms are listed to the first client, one with a title that does not fit its field.
theorem roomList_decoded_two_rooms : ∃ (server : CCentralizedServer) (network : Server)
    (decoded : List RoomInfo),
    server.roomManager.titles.map List.length = [65, 1] ∧
    network.Appended Server.oneSlot 1 0 (server.sendRoomList ⟨0, 1⟩).2.encode ∧
    headerSize (server.sendRoomList ⟨0, 1⟩).2.encode =
      (server.sendRoomList ⟨0, 1⟩).2.encode.length ∧
    List.Forall₂ RoomInfo.Describes decoded server.roomManager.listed := by
  let stale : Stale := .zeros 256
  let inputs : List Input := oneVisit.take 2 ++
    [⟨⟨.connected, 6, []⟩, stale⟩, ⟨⟨.received, 6, longTitle 3⟩, stale⟩]
  obtain ⟨network, reached, seen⟩ := Reachable.observe (Server.step Server.oneSlot)
    (.start Server.oneSlot) [.accept true] (fun network => network.Appended Server.oneSlot 1 0
      ((after inputs).sendRoomList ⟨0, 1⟩).2.encode) (by decide +kernel)
  have appended : network.Appended Server.oneSlot 1 0
      ((after inputs).sendRoomList ⟨0, 1⟩).2.encode := of_decide_eq_true seen
  obtain ⟨stated, described, _⟩ := roomList_decoded inputs ⟨0, 1⟩ reached appended [] .new
  exact ⟨after inputs, network, _, by decide +kernel, appended, stated, described⟩

end Client

end MiniGames
