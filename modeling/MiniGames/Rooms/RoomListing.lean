import MiniGames.Network.Incarnations
import MiniGames.Network.SessionRings
import MiniGames.Rooms.Decoding

set_option autoImplicit false

namespace MiniGames

open Runs CRingBufferT CCentralizedServer

namespace Server

theorem intToSize_sizeToInt {size : Nat} (small : size < 2 ^ 31) :
    intToSize (sizeToInt size) = size := by
  have value : sizeToInt size = size := by
    simp only [sizeToInt, BitVec.toInt_eq_toNat_cond, BitVec.toNat_ofNat]
    split <;> omega
  rw [value, intToSize]
  omega

structure Enqueued (env : Environment) (network : Server) (sessionId : SessionId) (index : Index)
    (packet : List UInt8) : Prop where
  stored : ((network.sessions index).sendQ.enqueue (some packet)
    (intToSize (sizeToInt packet.length))).1.contents = packet
  sent : network.requestSendMsg env sessionId (some packet) (sizeToInt packet.length) =
    (network.modify index (CSession.storeSendQ ((network.sessions index).sendQ.enqueue (some packet)
      (intToSize (sizeToInt packet.length))).1)).postSend env index

variable {env : Environment} {network : Server} {sessionId : SessionId} {index : Index}
  {packet : List UInt8}

theorem reachable_rings (reached : Reachable (Server.step env) Always (.start env) network) :
    network.Every Rings := by
  apply Every.reachable Rings.statement _ Rings.constructed reached
  intro session socket sessionId incarnation rings
  exact ⟨rings.recvQ.clear, rings.sendQ.clear⟩

theorem free_of_empty {ring : CRingBufferT} (default : ring.Default) (empty : ring.contents = []) :
    ring.getFreeSize = 65535 := by
  have length := ring.contents_length
  rw [empty] at length
  rw [default.sound.freeSize_eq, default.capacity, ← length]
  rfl

theorem enqueued_of_fits (default : (network.sessions index).sendQ.Default)
    (found : network.findSession env sessionId = some index)
    (valid : (network.sessions index).valid = true)
    (empty : (network.sessions index).sendQ.contents = [])
    (allocated : (network.sessions index).sendQ.buffer.isSome) (filled : 0 < packet.length)
    (fits : packet.length ≤ 65535) : network.Enqueued env sessionId index packet := by
  have size : intToSize (sizeToInt packet.length) = packet.length :=
    intToSize_sizeToInt (by omega)
  have room := free_of_empty default empty
  have accepted := default.sound.enqueue_accepted (Nat.le_refl _) allocated filled (by omega)
  rw [List.take_length] at accepted
  constructor
  · rw [size, accepted, (default.sound.enqueued_spec (by omega)).2.2, empty, List.nil_append]
  · simp only [requestSendMsg, found, valid, if_true, size, accepted, ne_eq, not_true_eq_false,
      if_false]

/-- A packet that does not fit costs the session its connection. -/
theorem disconnected_of_long (default : (network.sessions index).sendQ.Default)
    (found : network.findSession env sessionId = some index)
    (valid : (network.sessions index).valid = true)
    (long : 65535 < packet.length) (small : packet.length < 2 ^ 31) :
    ((network.requestSendMsg env sessionId (some packet)
      (sizeToInt packet.length)).sessions index).valid = false := by
  have size := intToSize_sizeToInt small
  have free : (network.sessions index).sendQ.getFreeSize < packet.length := by
    rw [default.sound.freeSize_eq, default.capacity]
    omega
  have refused := enqueue_refused (some packet) packet.length (.inr (.inr free))
  have filled : 0 ≠ packet.length := by omega
  simp only [requestSendMsg, found, valid, if_true, size, refused, ne_eq, filled,
    not_false_eq_true]
  exact disconnectSessionInternal_clears ..

end Server

namespace CCentralizedServer

variable {env : Environment} {network : Server} {index : Index}

theorem roomList_length (server : CCentralizedServer) (player : CPlayer) :
    (server.sendRoomList player).2.encode.length = 8 + 77 * server.roomManager.listed.length := by
  simp [sendRoomList, ServerMessage.size, sizeofRoomList, sizeofRoomInfo]

theorem roomList_headerSize (server : CCentralizedServer) (player : CPlayer) :
    headerSize (server.sendRoomList player).2.encode =
      (8 + 77 * server.roomManager.listed.length) % 2 ^ 16 := by
  rw [ServerMessage.encode, headerSize_header, ← ServerMessage.encode_length, roomList_length]

/-- SendRoomList states its length and fits the empty ring exactly for up to 851 rooms. -/
theorem roomList_enqueued_iff (server : CCentralizedServer) (player : CPlayer)
    (reached : Reachable (Server.step env) Always (.start env) network)
    (found : network.findSession env player.sessionId = some index)
    (valid : (network.sessions index).valid = true)
    (empty : (network.sessions index).sendQ.contents = []) :
    (headerSize (server.sendRoomList player).2.encode =
        (server.sendRoomList player).2.encode.length ∧
      network.Enqueued env player.sessionId index (server.sendRoomList player).2.encode) ↔
    server.roomManager.listed.length ≤ 851 ∧ (network.sessions index).sendQ.buffer.isSome := by
  have default := (Server.reachable_rings reached index).sendQ
  have length := roomList_length server player
  rw [roomList_headerSize, length]
  constructor
  · intro ⟨stated, enqueued⟩
    constructor
    · omega
    · apply Option.isSome_iff_ne_none.mpr
      intro missing
      have stored := enqueued.stored
      rw [enqueue_null_buffer _ _ missing, empty] at stored
      rw [← stored] at length
      rw [List.length_nil] at length
      omega
  · intro ⟨few, allocated⟩
    constructor
    · omega
    · exact Server.enqueued_of_fits default found valid empty allocated (by omega) (by omega)

theorem createAndJoin_titles {manager : CRoomManager CPlayer} (consistent : manager.Consistent)
    (title : List UInt8) {maxPlayers : Int32} (positive : 0 < maxPlayers) (player : CPlayer) :
    (createAndJoin manager title maxPlayers player).1.listed.map CRoom.title =
      title :: manager.listed.map CRoom.title := by
  cases placed : manager.playerToRoomMap.lookup player with
  | none => rw [(hasCreated consistent placed positive).listed, List.map_cons]
  | some roomId =>
    have there : (manager.playerToRoomMap.lookup player).isSome := by simp [placed]
    rw [createAndJoin_refused there, consistent.createRoom_listed, List.map_cons]
    rfl

def numberTitle (number : Nat) : List UInt8 :=
  [UInt8.ofNat (number % 255 + 1), UInt8.ofNat (number / 255 + 1)]

-- A client connects and makes a room.
def visit (number : Nat) : List Input :=
  let stale : Stale := .zeros 256
  let title := (CharArray.zeros 64).strncpy (numberTitle number)
  [⟨⟨.connected, BitVec.ofNat 64 number, []⟩, stale⟩,
    ⟨⟨.received, BitVec.ofNat 64 number, ClientMessage.encode (.createRoom title 2)⟩, stale⟩]

def visits (count : Nat) : List Input := (List.range count).flatMap visit

theorem byte_nonzero {value : Nat} (positive : 0 < value) (small : value < 256) :
    0 ≠ UInt8.ofNat value := by
  intro zero
  have same := congrArg UInt8.toNat zero
  simp only [UInt8.toNat_ofNat', UInt8.toNat_ofNat] at same
  omega

theorem numberTitle_clean {number : Nat} (small : number < 65025) : 0 ∉ numberTitle number := by
  intro member
  simp only [numberTitle, List.mem_cons, List.not_mem_nil, or_false] at member
  rcases member with zero | zero
  · exact byte_nonzero (by omega) (by omega) zero
  · exact byte_nonzero (by omega) (by omega) zero

theorem numberTitle_inj {first second : Nat} (small : first < 65025) (little : second < 65025)
    (same : numberTitle first = numberTitle second) : first = second := by
  simp only [numberTitle, List.cons.injEq, and_true] at same
  have low := congrArg UInt8.toNat same.1
  have high := congrArg UInt8.toNat same.2
  simp only [UInt8.toNat_ofNat'] at low high
  omega

theorem cString_numberTitle {number : Nat} (small : number < 65025) :
    cString (((CharArray.zeros 64).strncpy (numberTitle number)).bytes) = numberTitle number := by
  rw [CharArray.cString_strncpy, cString_clean (numberTitle_clean small)]
  rfl

-- A new client's valid CREATE_ROOM with a new title.
theorem after_visit {inputs : List Input} {number : Nat} (small : number < 65025)
    (unused : (after inputs).roomManager.findRoomByTitle (numberTitle number) = none) :
    (after (inputs ++ visit number)).roomManager = (createAndJoin (after inputs).roomManager
      (numberTitle number) 2 ⟨(after inputs).made, BitVec.ofNat 64 number⟩).1 := by
  have title := cString_numberTitle small
  have valid : validParameters (numberTitle number) 2 = true := by
    simp [validParameters, numberTitle]
  rw [visit, List.append_cons, after_append, after_append]
  generalize after inputs = server at unused
  have known := connected_getPlayer server (BitVec.ofNat 64 number) (BitVec.ofNat 64 number)
  rw [if_pos rfl] at known
  rw [dispatch_create _ rfl known rfl (CharArray.strncpy_terminated ..)]
  · rw [title]
    rfl
  · rw [title]
    exact valid
  · rw [title]
    exact unused

theorem after_visits {count : Nat} (small : count < 65025) :
    (after (visits count)).roomManager.allocated = count ∧
      (after (visits count)).roomManager.listed.map CRoom.title =
        ((List.range count).map numberTitle).reverse := by
  induction count with
  | zero => exact ⟨rfl, rfl⟩
  | succ count ih =>
    obtain ⟨made, titles⟩ := ih (by omega)
    have consistent := after_consistent (visits count) (by omega)
    have grown : visits (count + 1) = visits count ++ visit count := by
      simp [visits, List.range_succ]
    have unused : (after (visits count)).roomManager.findRoomByTitle (numberTitle count) = none := by
      apply findRoomByTitle_eq_none.mpr
      intro room member same
      have listed := List.mem_map_of_mem (f := CRoom.title) member
      rw [titles, List.mem_reverse, same] at listed
      obtain ⟨number, earlier, same⟩ := List.mem_map.mp listed
      have earlier := List.mem_range.mp earlier
      have same := numberTitle_inj (by omega) (by omega) same
      omega
    rw [grown, after_visit (by omega) unused]
    constructor
    · rw [createAndJoin_allocated, made]
    · rw [createAndJoin_titles consistent _ (by decide), titles, List.range_succ]
      simp

-- The first client of a server with one slot is connected and has been sent nothing.
theorem first_client : ∃ network : Server,
    Reachable (Server.step Server.oneSlot) Always (.start Server.oneSlot) network ∧
    network.findSession Server.oneSlot 1 = some 0 ∧ (network.sessions 0).valid = true ∧
    (network.sessions 0).sendQ.contents = [] ∧ (network.sessions 0).sendQ.buffer.isSome := by
  obtain ⟨network, reached, seen⟩ := Reachable.observe (Server.step Server.oneSlot)
    (.start Server.oneSlot) [.accept true]
    (fun network => network.findSession Server.oneSlot 1 = some 0 ∧
      (network.sessions 0).valid = true ∧ (network.sessions 0).sendQ.contents = [] ∧
      (network.sessions 0).sendQ.buffer.isSome) (by decide +kernel)
  exact ⟨network, reached, of_decide_eq_true seen⟩

-- The one room of the server is listed to the first client.
theorem roomList_enqueued_one_room : ∃ network : Server,
    headerSize ((after (oneVisit.take 2)).sendRoomList ⟨0, 1⟩).2.encode =
      ((after (oneVisit.take 2)).sendRoomList ⟨0, 1⟩).2.encode.length ∧
    network.Enqueued Server.oneSlot 1 0
      ((after (oneVisit.take 2)).sendRoomList ⟨0, 1⟩).2.encode := by
  obtain ⟨network, reached, found, valid, empty, allocated⟩ := first_client
  have few : (after (oneVisit.take 2)).roomManager.listed.length ≤ 851 := by decide +kernel
  exact ⟨network, (roomList_enqueued_iff (after (oneVisit.take 2)) ⟨0, 1⟩ reached found valid
    empty).mpr ⟨few, allocated⟩⟩

-- 852 clients have made a room each, and another one connects or asks for the list.
theorem roomList_disconnects : ∃ (inputs : List Input) (network : Server),
    (after inputs).roomManager.listed.length = 852 ∧
    Reachable (Server.step Server.oneSlot) Always (.start Server.oneSlot) network ∧
    network.findSession Server.oneSlot 1 = some 0 ∧ (network.sessions 0).valid = true ∧
    (network.sessions 0).sendQ.contents = [] ∧ (network.sessions 0).sendQ.buffer.isSome ∧
    headerSize ((after inputs).sendRoomList ⟨0, 1⟩).2.encode ≠
      ((after inputs).sendRoomList ⟨0, 1⟩).2.encode.length ∧
    ((network.requestSendMsg Server.oneSlot 1 (some ((after inputs).sendRoomList ⟨0, 1⟩).2.encode)
      (Server.sizeToInt ((after inputs).sendRoomList ⟨0, 1⟩).2.encode.length)).sessions 0).valid =
        false := by
  obtain ⟨network, reached, found, valid, empty, allocated⟩ := first_client
  have rooms : (after (visits 852)).roomManager.listed.length = 852 := by
    have titles := congrArg List.length (after_visits (show 852 < 65025 by omega)).2
    simpa using titles
  have length := roomList_length (after (visits 852)) ⟨0, 1⟩
  have stated := roomList_headerSize (after (visits 852)) ⟨0, 1⟩
  rw [rooms] at length stated
  have default := (Server.reachable_rings reached 0).sendQ
  refine ⟨visits 852, network, rooms, reached, found, valid, empty, allocated, ?_, ?_⟩
  · rw [stated, length]
    decide
  · exact Server.disconnected_of_long default found valid (by omega) (by omega)

end CCentralizedServer

end MiniGames
