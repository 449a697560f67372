import MiniGames.Rooms.Lobby
import MiniGames.Rooms.Requests

set_option autoImplicit false

namespace MiniGames

open Runs

namespace Lobby

open CCentralizedServer (Input dispatched requestedTitle requestedMaxPlayers requestedRoomId
  validParameters)

def roomInfo (room : Room SessionId (List UInt8)) : RoomInfo :=
  { roomId := Int32.ofNat room.number
    title := (CharArray.zeros 64).strncpy room.title
    currentPlayers := Int32.ofNat room.members.length
    maxPlayers := Int32.ofNat room.capacity
    status := RoomStatus.waiting.code }

def roomList (lobby : Lobby SessionId (List UInt8)) : ServerMessage :=
  .roomList (lobby.rooms.map roomInfo)

def failure (stale : Stale) (text : List UInt8) : ServerMessage := .error (stale.strncpy text)

def request (stale : Stale) (lobby : Lobby SessionId (List UInt8)) (client : SessionId)
    (data : List UInt8) : Lobby SessionId (List UInt8) × List ServerMessage :=
  match dispatched data with
  | some .c2sRequestRoomList => (lobby, [lobby.roomList])
  | some .c2sCreateRoom =>
      let title := requestedTitle data
      let maxPlayers := requestedMaxPlayers data
      if ¬ validParameters title maxPlayers then
        (lobby, [.roomCreated (-1) false, failure stale invalidParameters])
      else if lobby.titled title then
        (lobby, [.roomCreated (-1) false, failure stale titleExists])
      else
        let created := lobby.create title maxPlayers.toInt.toNat client
        (created.1, .roomCreated (Int32.ofNat created.1.created) created.2 ::
          if created.2 then [] else [failure stale createdNotJoined])
  | some .c2sJoinRoom =>
      let joined := lobby.join (requestedRoomId data).toInt.toNat client
      (joined.1, .roomJoined (requestedRoomId data) joined.2 ::
        if joined.2 then [] else [failure stale notJoined])
  | some .c2sLeaveRoom =>
      let left := lobby.leave client
      (left.1, [.roomLeft left.2])
  | _ => (lobby, [])

def serve (lobby : Lobby SessionId (List UInt8)) (input : Input) :
    Lobby SessionId (List UInt8) × List Sent :=
  let client := input.event.sessionId
  match input.event.type with
  | .connected =>
      let lobby := lobby.connect client
      (lobby, [(client, lobby.roomList)])
  | .disconnected => (lobby.disconnect client, [])
  | .received =>
      if lobby.online client then
        let answered := request input.stale lobby client input.event.data
        (answered.1, answered.2.map fun message => (client, message))
      else (lobby, [])

end Lobby

namespace CCentralizedServer

def lobbyRoom (room : CRoom CPlayer) : Lobby.Room SessionId (List UInt8) :=
  { number := room.roomId.toInt.toNat
    title := room.title
    capacity := room.maxPlayers.toInt.toNat
    members := room.players.map CPlayer.sessionId }

/-- What the state of the game thread stands for. -/
def lobby (server : CCentralizedServer) : Lobby SessionId (List UInt8) :=
  { online := fun sessionId => (server.getPlayer sessionId).isSome
    rooms := server.roomManager.listed.map lobbyRoom
    created := server.roomManager.allocated }

theorem exists_lobby_room {server : CCentralizedServer}
    {holds : Lobby.Room SessionId (List UInt8) → Prop} : (∃ room ∈ server.lobby.rooms, holds room) ↔
      ∃ room ∈ server.roomManager.listed, holds (lobbyRoom room) := by
  simp [lobby]

structure Standing (server : CCentralizedServer) : Prop where
  populated : server.Populated
  waiting : ∀ room ∈ server.roomManager.listed, room.status = .waiting

namespace Standing

variable {server : CCentralizedServer} (standing : server.Standing)

include standing

theorem listed_roomId {room : CRoom CPlayer} (listed : room ∈ server.roomManager.listed) :
    0 < room.roomId.toInt := by
  obtain ⟨ptr, member, rfl⟩ := List.mem_map.mp listed
  have consistent := standing.populated.consistent
  rw [consistent.toInt_roomId (consistent.made ptr member)]
  omega

theorem listed_sound {room : CRoom CPlayer} (listed : room ∈ server.roomManager.listed) :
    room.Sound := by
  obtain ⟨ptr, member, rfl⟩ := List.mem_map.mp listed
  exact standing.populated.consistent.sound ptr member

theorem number_iff {room : CRoom CPlayer} (listed : room ∈ server.roomManager.listed)
    (roomId : Int32) : room.roomId = roomId ↔ (lobbyRoom room).number = roomId.toInt.toNat := by
  have positive := standing.listed_roomId listed
  rw [← Int32.toInt_inj]
  simp only [lobbyRoom]
  omega

theorem roomInfo_lobbyRoom {room : CRoom CPlayer} (listed : room ∈ server.roomManager.listed) :
    Lobby.roomInfo (lobbyRoom room) = roomInfo room := by
  have positive := standing.listed_roomId listed
  have sound := standing.listed_sound listed
  have fits := sound.fits
  have back (value : Int32) (natural : 0 ≤ value.toInt) :
      Int32.ofNat value.toInt.toNat = value := by
    rw [← Int32.toInt_inj, Int32.toInt_ofNat_of_lt]
    · omega
    · have := value.toInt_lt
      omega
  simp only [Lobby.roomInfo, lobbyRoom, roomInfo, RoomInfo.mk.injEq, List.length_map,
    standing.waiting room listed, sound.counted, true_and, and_true]
  exact ⟨back _ (by omega), back _ (by omega)⟩

theorem roomList_lobby :
    server.lobby.roomList = .roomList (server.roomManager.listed.map roomInfo) := by
  simp only [Lobby.roomList, lobby, List.map_map]
  congr 1
  exact List.map_congr_left fun room listed => standing.roomInfo_lobbyRoom listed

omit standing in
theorem titled_lobby (server : CCentralizedServer) (title : List UInt8) :
    server.lobby.titled title = (server.roomManager.findRoomByTitle title).isSome := by
  rw [Bool.eq_iff_iff, Option.isSome_iff_ne_none, Ne, findRoomByTitle_eq_none]
  simp [Lobby.titled, lobby, lobbyRoom]

section Player

variable {sessionId : SessionId} {player : CPlayer}
  (known : server.getPlayer sessionId = some player)

include known

theorem member_iff {room : CRoom CPlayer} (listed : room ∈ server.roomManager.listed) :
    sessionId ∈ (lobbyRoom room).members ↔ player ∈ room.players := by
  simp only [lobbyRoom, List.mem_map]
  constructor
  · rintro ⟨other, member, rfl⟩
    have found := standing.populated.member_known listed member
    rw [known] at found
    rwa [Option.some.inj found]
  · intro member
    exact ⟨player, member, standing.populated.ownId _ _ known⟩

theorem placed_iff : server.lobby.placed sessionId = true ↔
    ∃ room ∈ server.roomManager.listed, player ∈ room.players := by
  rw [Lobby.placed_iff, exists_lobby_room]
  exact exists_congr fun room => and_congr_right fun listed => standing.member_iff known listed

theorem placed_eq : server.lobby.placed sessionId =
    (server.roomManager.playerToRoomMap.lookup player).isSome := by
  rw [Bool.eq_iff_iff, standing.placed_iff known, Option.isSome_iff_ne_none, Ne,
    standing.populated.consistent.nowhere_iff]
  simp

theorem joinable_iff (roomId : Int32) :
    server.lobby.joinable roomId.toInt.toNat sessionId = true ↔
      ∃ ptr, server.roomManager.Joinable roomId player ptr := by
  rw [standing.populated.consistent.joinable_iff, Lobby.joinable_iff, ← Bool.not_eq_true,
    standing.placed_iff known, exists_lobby_room]
  simp only [not_exists, not_and]
  refine and_congr_right fun _ => exists_congr fun room => and_congr_right fun listed => ?_
  rw [standing.number_iff listed]
  refine and_congr_right fun _ => ?_
  simp only [lobbyRoom, List.length_map]
  omega

theorem join (roomId : Int32) :
    (server.withRooms (server.roomManager.joinRoom roomId (some player)).1).lobby =
        (server.lobby.join roomId.toInt.toNat sessionId).1 ∧
      (server.roomManager.joinRoom roomId (some player)).2 =
        (server.lobby.join roomId.toInt.toNat sessionId).2 := by
  have consistent := standing.populated.consistent
  rcases server.roomManager.joinRoom_cases roomId (some player) with
    ⟨_, ptr, same, joinable, joined⟩ | ⟨never, refused⟩
  · cases same
    have accepted := (standing.joinable_iff known roomId).mpr ⟨ptr, joinable⟩
    rw [joined, Lobby.join, if_pos accepted]
    refine ⟨?_, rfl⟩
    have rooms := (consistent.hasJoined joinable).listed
    simp only [lobby, withRooms, rooms, List.map_map, Lobby.mk.injEq]
    refine ⟨rfl, List.map_congr_left fun room listed => ?_, rfl⟩
    simp only [Function.comp_apply, Lobby.Room.join]
    by_cases here : room.roomId = roomId
    · have same : (lobbyRoom room).number = roomId.toInt.toNat :=
        (standing.number_iff listed roomId).mp here
      rw [if_pos here, if_pos same]
      simp [lobbyRoom, standing.populated.ownId _ _ known, CRoom.append]
    · rw [if_neg here, if_neg (mt (standing.number_iff listed roomId).mpr here)]
  · have declined : server.lobby.joinable roomId.toInt.toNat sessionId = false := by
      rw [← Bool.not_eq_true, standing.joinable_iff known]
      rintro ⟨ptr, joinable⟩
      exact never player ptr rfl joinable
    rw [refused, Lobby.join, declined]
    exact ⟨rfl, rfl⟩

theorem staying {room : CRoom CPlayer} (listed : room ∈ server.roomManager.listed) :
    (lobbyRoom room).members.filter (fun member => member ≠ sessionId) =
      (room.players.erase player).map CPlayer.sessionId := by
  rw [(standing.listed_sound listed).nodup.erase_eq_filter, lobbyRoom, List.filter_map]
  congr 1
  refine List.filter_congr fun other member => ?_
  have same : other.sessionId = sessionId ↔ other = player := by
    constructor
    · rintro rfl
      have found := standing.populated.member_known listed member
      rw [known] at found
      exact (Option.some.inj found).symm
    · rintro rfl
      exact standing.populated.ownId _ _ known
  rw [Bool.eq_iff_iff]
  simp [same]

theorem without_lobbyRoom {roomId : Int32}
    (placed : server.roomManager.playerToRoomMap.lookup player = some roomId)
    {room : CRoom CPlayer} (listed : room ∈ server.roomManager.listed) :
    (lobbyRoom room).without sessionId =
      (CRoomManager.changeRoom roomId (CRoomManager.leftBy player) room).map lobbyRoom := by
  have consistent := standing.populated.consistent
  have inside : player ∈ room.players ↔ room.roomId = roomId := by
    constructor
    · intro member
      have there := consistent.lookup_of_mem listed member
      rw [placed] at there
      exact (Option.some.inj there).symm
    · rintro rfl
      obtain ⟨ptr, present, rfl⟩ := List.mem_map.mp listed
      obtain ⟨other, member, same, there⟩ := (consistent.placed player _).mp placed
      rwa [(consistent.id_eq_iff present member).mp same] at there
  rw [Lobby.Room.without, standing.staying known listed, CRoomManager.changeRoom,
    CRoomManager.leftBy]
  by_cases here : player ∈ room.players
  · rw [if_pos ((standing.member_iff known listed).mpr here), if_pos (inside.mp here)]
    by_cases last : room.players.erase player = []
    · simp [last]
    · simp [last, lobbyRoom, CRoom.remove]
  · rw [if_neg (mt (standing.member_iff known listed).mp here), if_neg (mt inside.mpr here)]
    rfl

theorem leave :
    (server.withRooms (server.roomManager.leaveRoom (some player)).1).lobby =
        (server.lobby.leave sessionId).1 ∧
      (server.roomManager.leaveRoom (some player)).2 = (server.lobby.leave sessionId).2 := by
  have consistent := standing.populated.consistent
  have placed := standing.placed_eq known
  simp only [Lobby.leave, placed]
  rcases consistent.leaveRoom_cases (some player) with
    ⟨_, roomId, ptr, same, seated, left⟩ | ⟨out, refused⟩
  · cases same
    have rooms := (consistent.hasLeft seated.placed).listed
    refine ⟨?_, by rw [left, seated.placed]; rfl⟩
    simp only [lobby, withRooms, rooms, List.map_filterMap,
      List.filterMap_map, Lobby.mk.injEq]
    refine ⟨rfl, List.filterMap_congr fun room listed => ?_, ?_⟩
    · exact (standing.without_lobbyRoom known seated.placed listed).symm
    · exact CRoomManager.leaveRoom_allocated ..
  · have unplaced := out player rfl
    refine ⟨?_, by rw [refused, unplaced]; rfl⟩
    rw [refused]
    simp only [lobby, withRooms, List.filterMap_map, Lobby.mk.injEq, true_and, and_true]
    rw [← List.filterMap_eq_map]
    refine List.filterMap_congr fun room listed => ?_
    have outside := mt (standing.member_iff known listed).mp
      (consistent.nowhere_iff.mp unplaced room listed)
    exact (Lobby.Room.without_outside outside).symm

theorem create (title : List UInt8) {maxPlayers : Int32} (positive : 0 < maxPlayers)
    (room : server.roomManager.allocated + 1 < 2 ^ 31) :
    (server.withRooms (createAndJoin server.roomManager title maxPlayers player).1).lobby =
        (server.lobby.create title maxPlayers.toInt.toNat sessionId).1 ∧
      (createAndJoin server.roomManager title maxPlayers player).2 =
        (server.lobby.create title maxPlayers.toInt.toNat sessionId).2 := by
  have consistent := standing.populated.consistent
  have placed := standing.placed_eq known
  have number :
      server.roomManager.roomIdCounter.toInt.toNat = server.roomManager.allocated + 1 := by
    rw [consistent.counter, Int32.toInt_ofNat_of_lt room]
    rfl
  simp only [lobby, withRooms, createAndJoin_allocated] at placed ⊢
  simp only [Lobby.create, placed]
  cases found : server.roomManager.playerToRoomMap.lookup player with
  | none =>
    have created : (createAndJoin server.roomManager title maxPlayers player).1.listed = _ :=
      (hasCreated consistent found positive).listed
    refine ⟨?_, by rw [createAndJoin_accepted found positive]; rfl⟩
    rw [created]
    simp [lobbyRoom, number, standing.populated.ownId _ _ known]
    rfl
  | some roomId =>
    have there : (server.roomManager.playerToRoomMap.lookup player).isSome := by simp [found]
    rw [createAndJoin_refused there, consistent.createRoom_listed]
    refine ⟨?_, rfl⟩
    simp [lobbyRoom, number, CRoom.new]
    rfl

end Player

end Standing

section Requests

variable {server : CCentralizedServer} (standing : server.Standing) {sessionId : SessionId}
  {player : CPlayer} (known : server.getPlayer sessionId = some player) (stale : Stale)
  (data : List UInt8)

include standing known

theorem Standing.createRequest
    (few : (handleCreateRoom stale server player data).1.roomManager.allocated < 2 ^ 31)
    (routed : dispatched data = some .c2sCreateRoom) :
    (handleCreateRoom stale server player data).1.lobby =
        (Lobby.request stale server.lobby sessionId data).1 ∧
      (handleCreateRoom stale server player data).2 =
        (Lobby.request stale server.lobby sessionId data).2.map
          fun message => (sessionId, message) := by
  have own := standing.populated.ownId _ _ known
  simp only [Lobby.request, routed, titled_lobby]
  by_cases valid : validParameters (requestedTitle data) (requestedMaxPlayers data) = true
  · cases unused : server.roomManager.findRoomByTitle (requestedTitle data) with
    | some ptr =>
      simp [handleCreateRoom, valid, unused, sendRoomCreated, sendError, Lobby.failure, own]
    | none =>
      have handled := (handleCreateRoom_cases stale server player data).resolve_right
        fun refused => refused.1 ⟨valid, unused⟩
      rw [handled.2.2] at few ⊢
      have room : server.roomManager.allocated + 1 < 2 ^ 31 := by
        simp only [withRooms, createAndJoin_allocated] at few
        exact few
      obtain ⟨state, answer⟩ := standing.create known (requestedTitle data)
        (positive_of_valid valid) room
      have number : server.roomManager.roomIdCounter = Int32.ofNat (server.lobby.create
          (requestedTitle data) (requestedMaxPlayers data).toInt.toNat sessionId).1.created :=
        standing.populated.consistent.counter
      simp only [valid, not_true_eq_false, Option.isSome_none, Bool.false_eq_true, if_false]
      refine ⟨state, ?_⟩
      rw [answer, number, List.map_cons, sendRoomCreated, own]
      split
      · rfl
      · rw [sendError, own]
        rfl
  · simp [handleCreateRoom, valid, sendRoomCreated, sendError, Lobby.failure, own]

theorem Standing.request
    (few : (handleRequest stale server player data).1.roomManager.allocated < 2 ^ 31) :
    (handleRequest stale server player data).1.lobby =
        (Lobby.request stale server.lobby sessionId data).1 ∧
      (handleRequest stale server player data).2 =
        (Lobby.request stale server.lobby sessionId data).2.map
          fun message => (sessionId, message) := by
  have own := standing.populated.ownId _ _ known
  cases routed : dispatched data with
  | none =>
    simp [handleRequest, Lobby.request, routed]
  | some type =>
    cases type with
    | c2sRequestRoomList =>
      simp only [handleRequest, Lobby.request, routed, standing.roomList_lobby]
      refine ⟨rfl, ?_⟩
      simp [handleRequestRoomList, sendRoomList, own]
    | c2sCreateRoom =>
      simp only [handleRequest, routed] at few ⊢
      exact standing.createRequest known stale data few routed
    | c2sJoinRoom =>
      obtain ⟨state, answer⟩ := standing.join known (requestedRoomId data)
      simp only [handleRequest, Lobby.request, routed, handleJoinRoom]
      refine ⟨state, ?_⟩
      rw [answer, List.map_cons, sendRoomJoined, own]
      split
      · rfl
      · rw [sendError, own]
        rfl
    | c2sLeaveRoom =>
      obtain ⟨state, answer⟩ := standing.leave known
      simp only [handleRequest, Lobby.request, routed, handleLeaveRoom]
      refine ⟨state, ?_⟩
      rw [answer, sendRoomLeft, own]
      rfl
    | s2cRoomList | s2cRoomCreated | s2cRoomJoined | s2cRoomLeft | s2cError =>
      simp [handleRequest, Lobby.request, routed]

end Requests

section Waiting

variable {manager : CRoomManager CPlayer} (consistent : manager.Consistent)
  (waiting : ∀ room ∈ manager.listed, room.status = .waiting)

include consistent waiting

theorem leaveRoom_waiting (player : CPlayer) :
    ∀ room ∈ (manager.leaveRoom (some player)).1.listed, room.status = .waiting := by
  cases placed : manager.playerToRoomMap.lookup player with
  | none =>
    rw [CRoomManager.leaveRoom_unplaced placed]
    exact waiting
  | some roomId =>
    intro room member
    rw [(consistent.hasLeft placed).listed] at member
    obtain ⟨before, listed, stays⟩ := List.mem_filterMap.mp member
    have standing := waiting before listed
    simp only [CRoomManager.changeRoom, CRoomManager.leftBy] at stays
    split at stays
    · split at stays
      · cases stays
      · cases stays
        exact standing
    · cases stays
      exact standing

theorem joinRoom_waiting (roomId : Int32) (player : CPlayer) :
    ∀ room ∈ (manager.joinRoom roomId (some player)).1.listed, room.status = .waiting := by
  rcases manager.joinRoom_cases roomId (some player) with
    ⟨_, ptr, same, joinable, joined⟩ | ⟨_, refused⟩
  · cases same
    rw [joined, (consistent.hasJoined joinable).listed, List.forall_mem_map]
    intro room listed
    split
    · exact waiting room listed
    · exact waiting room listed
  · rw [refused]
    exact waiting

theorem createAndJoin_waiting {title : List UInt8} {maxPlayers : Int32} (positive : 0 < maxPlayers)
    (player : CPlayer) :
    ∀ room ∈ (createAndJoin manager title maxPlayers player).1.listed, room.status = .waiting := by
  cases placed : manager.playerToRoomMap.lookup player with
  | none =>
    rw [(hasCreated consistent placed positive).listed]
    exact List.forall_mem_cons.mpr ⟨rfl, waiting⟩
  | some roomId =>
    have there : (manager.playerToRoomMap.lookup player).isSome := by simp [placed]
    rw [createAndJoin_refused there, consistent.createRoom_listed]
    exact List.forall_mem_cons.mpr ⟨rfl, waiting⟩

end Waiting

theorem new_standing : new.Standing :=
  ⟨new_populated, fun _ member => absurd member List.not_mem_nil⟩

theorem Standing.waits {server next : CCentralizedServer} {event : NetworkEvent}
    (standing : server.Standing) (turn : Turn server event next) :
    ∀ room ∈ next.roomManager.listed, room.status = .waiting := by
  have consistent := standing.populated.consistent
  cases turn with
  | connect | ignore | idle => exact standing.waiting
  | disconnect | leave => exact leaveRoom_waiting consistent standing.waiting _
  | create _ _ valid =>
    exact createAndJoin_waiting consistent standing.waiting (positive_of_valid valid) _
  | join => exact joinRoom_waiting consistent standing.waiting _ _

theorem Standing.serve {server : CCentralizedServer} (standing : server.Standing) (input : Input)
    (few : (dispatch input.stale server input.event).1.roomManager.allocated < 2 ^ 31) :
    (dispatch input.stale server input.event).1.lobby = (server.lobby.serve input).1 ∧
      (dispatch input.stale server input.event).2 = (server.lobby.serve input).2 := by
  obtain ⟨⟨type, sessionId, data⟩, stale⟩ := input
  cases type with
  | connected =>
    simp only [dispatch, Lobby.serve]
    constructor
    · simp only [lobby, Lobby.connect, connected_getPlayer, Lobby.mk.injEq]
      refine ⟨funext fun other => ?_, rfl, rfl⟩
      rw [Function.update_apply]
      split <;> rfl
    · exact congrArg (fun message => [(sessionId, message)]) standing.roomList_lobby.symm
  | disconnected =>
    simp only [dispatch, Lobby.serve, dispatchClientDisconnected]
    refine ⟨?_, trivial⟩
    cases known : server.getPlayer sessionId with
    | none =>
      simp only [lobby, Lobby.disconnect, Lobby.leave, Lobby.mk.injEq]
      refine ⟨funext fun other => ?_, ?_, trivial⟩
      · rw [Function.update_apply]
        split
        · next same => rw [same, known]; rfl
        · rfl
      · rw [List.filterMap_map, ← List.filterMap_eq_map]
        refine List.filterMap_congr fun room listed => (Lobby.Room.without_outside ?_).symm
        intro inside
        obtain ⟨player, member, same⟩ := List.mem_map.mp inside
        rw [← same, standing.populated.member_known listed member] at known
        cases known
    | some player =>
      have left := (standing.leave known).1
      simp only [lobby, withRooms, Lobby.leave, Lobby.mk.injEq] at left
      simp only [lobby, removePlayer_getPlayer, Lobby.disconnect, Lobby.leave, Lobby.mk.injEq]
      refine ⟨funext fun other => ?_, left.2.1, left.2.2⟩
      rw [Function.update_apply]
      split <;> rfl
  | received =>
    cases known : server.getPlayer sessionId with
    | none =>
      have offline : server.lobby.online sessionId = false := by simp [lobby, known]
      simp [dispatch, dispatchDataReceived, known, Lobby.serve, offline]
    | some player =>
      have online : server.lobby.online sessionId = true := by simp [lobby, known]
      rw [dispatch_request stale rfl known] at few ⊢
      simp only [Lobby.serve, online, if_true]
      exact standing.request known stale data few

-- The loop of GameLogicThread, with the messages for each event.
def served (inputs : List Input) : CCentralizedServer × List (List Sent) :=
  transcript (fun server input => dispatch input.stale server input.event) new inputs

theorem served_state (inputs : List Input) : (served inputs).1 = after inputs := by
  induction inputs using List.reverseRecOn with
  | nil => rfl
  | append_singleton inputs input ih =>
    rw [after_append, ← ih, served, transcript_append]
    rfl

end CCentralizedServer

namespace Lobby

open CCentralizedServer (Input validParameters_iff)

theorem request_orderly {lobby : Lobby SessionId (List UInt8)} (orderly : lobby.Orderly)
    {client : SessionId} (online : lobby.online client = true) (stale : Stale)
    (data : List UInt8) : (request stale lobby client data).1.Orderly := by
  simp only [request]
  split
  · exact orderly
  · split
    · exact orderly
    · next valid =>
      split
      · exact orderly
      · next unused =>
        obtain ⟨_, two, _⟩ := validParameters_iff.mp (of_not_not valid)
        rw [Int32.le_iff_toInt_le] at two
        have two : 2 ≤ (CCentralizedServer.requestedMaxPlayers data).toInt := two
        exact orderly.create online (by simpa using unused) (by omega)
  · exact orderly.join online
  · exact orderly.leave
  · exact orderly

theorem serve_orderly {lobby : Lobby SessionId (List UInt8)} (orderly : lobby.Orderly)
    (input : Input) : (lobby.serve input).1.Orderly := by
  simp only [serve]
  split
  · exact orderly.connect
  · exact orderly.disconnect
  · split
    · next online => exact request_orderly orderly online input.stale input.event.data
    · exact orderly

end Lobby

namespace CCentralizedServer

theorem after_standing (inputs : List Input)
    (once : ∀ sessionId, connections sessionId inputs ≤ 1)
    (few : (after inputs).roomManager.allocated < 2 ^ 31) : (after inputs).Standing := by
  refine ⟨(after_populated inputs once few).1, ?_⟩
  induction inputs using List.reverseRecOn with
  | nil => exact new_standing.waiting
  | append_singleton inputs input ih =>
    have earlier (sessionId : SessionId) : connections sessionId inputs ≤ 1 := by
      have total := once sessionId
      rw [connections_append] at total
      omega
    have before := Nat.lt_of_le_of_lt (after_allocated_le inputs input) few
    have standing : (after inputs).Standing :=
      ⟨(after_populated inputs earlier before).1, ih earlier before⟩
    rw [after_append]
    exact standing.waits (dispatch_turn input.stale (after inputs) input.event)

/-- The game thread answers every sequence of events as a lobby does, and its state stands for the
lobby's, an orderly one. -/
theorem server_refines_lobby (inputs : List Input)
    (once : ∀ sessionId, connections sessionId inputs ≤ 1)
    (few : (after inputs).roomManager.allocated < 2 ^ 31) :
    (served inputs).2 = (transcript Lobby.serve .empty inputs).2 ∧
      (served inputs).1.lobby = (transcript Lobby.serve .empty inputs).1 ∧
      (transcript Lobby.serve .empty inputs).1.Orderly := by
  induction inputs using List.reverseRecOn with
  | nil => exact ⟨rfl, rfl, Lobby.empty_orderly⟩
  | append_singleton inputs input ih =>
    have earlier (sessionId : SessionId) : connections sessionId inputs ≤ 1 := by
      have total := once sessionId
      rw [connections_append] at total
      omega
    have before := Nat.lt_of_le_of_lt (after_allocated_le inputs input) few
    obtain ⟨replies, state, orderly⟩ := ih earlier before
    rw [after_append] at few
    have same := (after_standing inputs earlier before).serve input few
    rw [← served_state] at same
    rw [state] at same
    rw [served, transcript_append, transcript_append]
    exact ⟨congrArg₂ (· ++ [·]) replies same.2, same.1, Lobby.serve_orderly orderly input⟩

theorem connections_le_one {inputs : List Input}
    (distinct : ((inputs.filter fun input => input.event.type = .connected).map
      fun input => input.event.sessionId).Nodup) (sessionId : SessionId) :
    connections sessionId inputs ≤ 1 := by
  have count := List.nodup_iff_count_le_one.mp distinct sessionId
  rw [List.count, List.countP_map, List.countP_filter] at count
  refine Nat.le_trans (List.countP_mono_left fun input _ found => ?_) count
  simpa [and_comm] using found

-- A room is opened, a second client joins it, and the first leaves it.
theorem server_refines_lobby_handover : ∃ inputs : List Input,
    (served inputs).2 = (transcript Lobby.serve .empty inputs).2 ∧
      (transcript Lobby.serve .empty inputs).1.rooms = [⟨1, [97], 2, [2]⟩] := by
  let stale : Stale := .zeros 256
  let create := ClientMessage.encode (.createRoom ((CharArray.zeros 64).strncpy [97]) 2)
  let join := ClientMessage.encode (.joinRoom 1)
  let leave := ClientMessage.encode .leaveRoom
  let inputs : List Input := [⟨⟨.connected, 1, []⟩, stale⟩, ⟨⟨.connected, 2, []⟩, stale⟩,
    ⟨⟨.received, 1, create⟩, stale⟩, ⟨⟨.received, 2, join⟩, stale⟩, ⟨⟨.received, 1, leave⟩, stale⟩]
  have refines := server_refines_lobby inputs
    (connections_le_one (by decide +kernel)) (by decide +kernel)
  exact ⟨inputs, refines.1, by decide +kernel⟩

end CCentralizedServer

end MiniGames
