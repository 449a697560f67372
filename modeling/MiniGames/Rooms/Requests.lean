import MiniGames.Rooms.GameRuns

set_option autoImplicit false

namespace MiniGames.CCentralizedServer

theorem cString_append {first : List UInt8} (terminated : 0 ∈ first) (rest : List UInt8) :
    cString (first ++ rest) = cString first := by
  induction first with
  | nil => cases terminated
  | cons byte first ih =>
    rw [List.cons_append, cString, cString]
    by_cases zero : byte = 0
    · simp [zero]
    · have later : 0 ∈ first := by
        simpa [Ne.symm zero] using terminated
      rw [List.takeWhile_cons_of_pos (by simpa using zero),
        List.takeWhile_cons_of_pos (by simpa using zero)]
      exact congrArg _ (ih later)

-- The string in `char title[64]`.
def fieldTitle (data : List UInt8) : List UInt8 := cString ((data.drop sizeofMsgHeader).take 64)

theorem requestedTitle_eq {data : List UInt8}
    (terminated : 0 ∈ (data.drop sizeofMsgHeader).take 64) :
    requestedTitle data = fieldTitle data := by
  rw [fieldTitle, ← cString_append terminated ((data.drop sizeofMsgHeader).drop 64),
    List.take_append_drop, requestedTitle]

section CreateAndJoin

variable {manager : CRoomManager CPlayer} {title : List UInt8} {maxPlayers : Int32}
  {player : CPlayer}

theorem createAndJoin_joinable (unplaced : manager.playerToRoomMap.lookup player = none)
    (positive : 0 < maxPlayers) : (manager.createRoom title maxPlayers).1.Joinable
      manager.roomIdCounter player manager.allocated := by
  constructor
  case unplaced => exact unplaced
  case found => exact AList.lookup_insert _
  case roomy =>
    simp only [CRoomManager.createRoom, CRoomManager.store, Function.update_self, CRoom.isFull,
      CRoom.new, decide_eq_false_iff_not, ge_iff_le, Int32.not_le]
    exact positive
  case absent => simp [CRoomManager.createRoom, CRoomManager.store, CRoom.new]

theorem createAndJoin_accepted (unplaced : manager.playerToRoomMap.lookup player = none)
    (positive : 0 < maxPlayers) : createAndJoin manager title maxPlayers player =
      ((manager.createRoom title maxPlayers).1.seat manager.roomIdCounter player
        manager.allocated, true) := by
  have joinable : (manager.createRoom title maxPlayers).1.Joinable manager.roomIdCounter player
      manager.allocated := createAndJoin_joinable unplaced positive
  rcases CRoomManager.joinRoom_cases _ manager.roomIdCounter (some player) with
    ⟨_, ptr, same, other, joined⟩ | ⟨never, _⟩
  · cases same
    cases other.found.symm.trans joinable.found
    exact joined
  · exact absurd joinable (never player manager.allocated rfl)

theorem createAndJoin_refused (placed : (manager.playerToRoomMap.lookup player).isSome) :
    createAndJoin manager title maxPlayers player =
      ((manager.createRoom title maxPlayers).1, false) := by
  have placed : ((manager.createRoom title maxPlayers).1.playerToRoomMap.lookup player).isSome =
    true := placed
  simp only [createAndJoin, CRoomManager.joinRoom, placed, if_true]

theorem createAndJoin_success (positive : 0 < maxPlayers) :
    (createAndJoin manager title maxPlayers player).2 = true ↔
      manager.playerToRoomMap.lookup player = none := by
  cases placed : manager.playerToRoomMap.lookup player with
  | none => simp [createAndJoin_accepted placed positive]
  | some roomId =>
    have placed : (manager.playerToRoomMap.lookup player).isSome := by simp [placed]
    simp [createAndJoin_refused placed]

theorem created_room (player : CPlayer) :
    ((manager.createRoom title maxPlayers).1.seat manager.roomIdCounter player
      manager.allocated).rooms manager.allocated =
        (CRoom.new manager.roomIdCounter title maxPlayers).append player := by
  simp [CRoomManager.seat, CRoomManager.createRoom, CRoomManager.store]

theorem created_others (player : CPlayer) {ptr : Nat} (early : ptr < manager.allocated) :
    ((manager.createRoom title maxPlayers).1.seat manager.roomIdCounter player
      manager.allocated).rooms ptr = manager.rooms ptr := by
  have differs := Nat.ne_of_lt early
  simp [CRoomManager.seat, CRoomManager.createRoom, CRoomManager.store, differs]

theorem hasCreated (consistent : manager.Consistent)
    (unplaced : manager.playerToRoomMap.lookup player = none) (positive : 0 < maxPlayers) :
    manager.HasCreated (createAndJoin manager title maxPlayers player).1 player
      manager.roomIdCounter title maxPlayers := by
  rw [createAndJoin_accepted unplaced positive]
  have listed : ((manager.createRoom title maxPlayers).1.seat manager.roomIdCounter player
      manager.allocated).listed =
        (CRoom.new manager.roomIdCounter title maxPlayers).append player :: manager.listed := by
    have rooms : ((manager.createRoom title maxPlayers).1.seat manager.roomIdCounter player
      manager.allocated).roomList = manager.allocated :: manager.roomList := rfl
    rw [CRoomManager.listed, rooms, List.map_cons, created_room]
    apply congrArg
    apply List.map_congr_left
    intro ptr member
    exact created_others player (consistent.made ptr member)
  constructor
  case fresh =>
    intro ptr made
    exact consistent.fresh made
  case listed => exact listed
  case mapped =>
    intro other
    rw [listed, List.find?_cons]
    have found : ((manager.createRoom title maxPlayers).1.seat manager.roomIdCounter player
        manager.allocated).findRoom other =
          (manager.roomMap.insert manager.roomIdCounter manager.allocated).lookup other := rfl
    rw [found]
    by_cases same : other = manager.roomIdCounter
    · rw [same, AList.lookup_insert, Option.map_some, created_room]
      simp [CRoom.new]
    · have differs : ¬ (CRoom.new manager.roomIdCounter title maxPlayers : CRoom CPlayer).roomId =
        other := Ne.symm same
      rw [AList.lookup_insert_ne same, CRoom.append_roomId, decide_eq_false differs,
        ← consistent.findRoom_eq]
      cases seen : manager.findRoom other with
      | none =>
        rw [CRoomManager.findRoom] at seen
        rw [seen]
        rfl
      | some ptr =>
        have member := (consistent.find seen).1
        rw [CRoomManager.findRoom] at seen
        rw [seen, Option.map_some, Option.map_some,
          created_others player (consistent.made ptr member)]
  case placed =>
    intro other
    simp only [CRoomManager.seat]
    split
    · next same => rw [same, AList.lookup_insert]
    · next differs => exact AList.lookup_insert_ne differs

end CreateAndJoin

structure Request (data : List UInt8) (type : MsgType) (size : Nat) : Prop where
  length : data.length = size
  size : headerSize data = size
  type : headerType data = some type

theorem findRoomByTitle_eq_none {manager : CRoomManager CPlayer} {title : List UInt8} :
    manager.findRoomByTitle title = none ↔ ∀ room ∈ manager.listed, room.title ≠ title := by
  rw [CRoomManager.findRoomByTitle, List.find?_eq_none, CRoomManager.listed, List.forall_mem_map]
  simp

theorem dispatch_request (stale : Stale) {server : CCentralizedServer} {event : NetworkEvent}
    {player : CPlayer} (received : event.type = .received)
    (known : server.getPlayer event.sessionId = some player) :
    dispatch stale server event = handleRequest stale server player event.data := by
  simp only [dispatch, received, dispatchDataReceived, known]

/-- The reply to CREATE_ROOM says whether a room for its creator is now the first of the list. -/
def CreateTruthful (server : CCentralizedServer) : Prop :=
  ∀ stale event player, event.type = .received →
    server.getPlayer event.sessionId = some player →
    Request event.data .c2sCreateRoom sizeofCreateRoom →
    0 ∈ (event.data.drop sizeofMsgHeader).take 64 →
    ∃ roomId success rest, (dispatch stale server event).2 =
        (player.sessionId, .roomCreated roomId success) :: rest ∧
      (success = true ↔ fieldTitle event.data ≠ [] ∧ 2 ≤ requestedMaxPlayers event.data ∧
        requestedMaxPlayers event.data ≤ 10 ∧
        (∀ room ∈ server.roomManager.listed, room.title ≠ fieldTitle event.data) ∧
        ∀ room ∈ server.roomManager.listed, player ∉ room.players) ∧
      (success = true → server.roomManager.HasCreated (dispatch stale server event).1.roomManager
        player roomId (fieldTitle event.data) (requestedMaxPlayers event.data))

def JoinTruthful (server : CCentralizedServer) : Prop :=
  ∀ stale event player, event.type = .received →
    server.getPlayer event.sessionId = some player →
    Request event.data .c2sJoinRoom sizeofJoinRoom →
    ∃ success rest, (dispatch stale server event).2 =
        (player.sessionId, .roomJoined (requestedRoomId event.data) success) :: rest ∧
      (success = true ↔ (∀ room ∈ server.roomManager.listed, player ∉ room.players) ∧
        ∃ room ∈ server.roomManager.listed, room.roomId = requestedRoomId event.data ∧
          (room.players.length : Int) < room.maxPlayers.toInt) ∧
      (success = true → server.roomManager.HasJoined (dispatch stale server event).1.roomManager
        player (requestedRoomId event.data))

def LeaveTruthful (server : CCentralizedServer) : Prop :=
  ∀ stale event player, event.type = .received →
    server.getPlayer event.sessionId = some player →
    Request event.data .c2sLeaveRoom sizeofLeaveRoom →
    ∃ success, (dispatch stale server event).2 = [(player.sessionId, .roomLeft success)] ∧
      (success = true ↔ ∃ room ∈ server.roomManager.listed, player ∈ room.players) ∧
      ∀ room ∈ server.roomManager.listed, player ∈ room.players →
        server.roomManager.HasLeft (dispatch stale server event).1.roomManager player room.roomId

theorem create_truthful {server : CCentralizedServer} (consistent : server.roomManager.Consistent) :
    server.CreateTruthful := by
  intro stale event player received known request terminated
  have title := requestedTitle_eq terminated
  have routed : dispatched event.data = some .c2sCreateRoom := by
    simp [dispatched, request.length, request.size, request.type, sizeofCreateRoom,
      sizeofMsgHeader, typedHeader]
  rw [dispatch_request stale received known]
  simp only [handleRequest, routed]
  rw [← consistent.nowhere_iff, ← findRoomByTitle_eq_none]
  rcases handleCreateRoom_cases stale server player event.data with
    ⟨valid, unused, handled⟩ | ⟨invalid, _, handled⟩
  · rw [handled]
    rw [title] at valid unused ⊢
    refine ⟨_, _, _, rfl, ?_, ?_⟩
    · obtain ⟨filled, two, ten⟩ := validParameters_iff.mp valid
      rw [createAndJoin_success (positive_of_valid valid)]
      constructor
      · intro unplaced
        exact ⟨filled, two, ten, unused, unplaced⟩
      · rintro ⟨_, _, _, _, unplaced⟩
        exact unplaced
    · intro success
      exact hasCreated consistent ((createAndJoin_success (positive_of_valid valid)).mp success)
        (positive_of_valid valid)
  · rw [handled]
    rw [title] at invalid
    refine ⟨_, _, _, rfl, ?_, by simp⟩
    simp only [Bool.false_eq_true, false_iff]
    rintro ⟨filled, two, ten, unused, _⟩
    exact invalid ⟨validParameters_iff.mpr ⟨filled, two, ten⟩, unused⟩

theorem join_truthful {server : CCentralizedServer} (consistent : server.roomManager.Consistent) :
    server.JoinTruthful := by
  intro stale event player received known request
  have routed : dispatched event.data = some .c2sJoinRoom := by
    simp [dispatched, request.length, request.size, request.type, sizeofJoinRoom,
      sizeofMsgHeader, typedHeader]
  rw [dispatch_request stale received known]
  simp only [handleRequest, routed, handleJoinRoom]
  refine ⟨_, _, rfl, ?_, ?_⟩
  · rw [CRoomManager.joinRoom_success, consistent.joinable_iff]
  · exact consistent.joinRoom_hasJoined

theorem leave_truthful {server : CCentralizedServer} (consistent : server.roomManager.Consistent) :
    server.LeaveTruthful := by
  intro stale event player received known request
  have routed : dispatched event.data = some .c2sLeaveRoom := by
    simp [dispatched, request.length, request.size, request.type, sizeofLeaveRoom,
      sizeofMsgHeader, typedHeader]
  rw [dispatch_request stale received known]
  simp only [handleRequest, routed, handleLeaveRoom]
  refine ⟨_, rfl, consistent.leaveRoom_success, ?_⟩
  intro room member inside
  exact consistent.hasLeft (consistent.lookup_of_mem member inside)

/-- The replies to well-formed requests are true of every state with fewer than 2^31 creations. -/
theorem replies_truthful (inputs : List Input)
    (few : (after inputs).roomManager.allocated < 2 ^ 31) :
    (after inputs).CreateTruthful ∧ (after inputs).JoinTruthful ∧ (after inputs).LeaveTruthful := by
  have consistent := after_consistent inputs few
  exact ⟨create_truthful consistent, join_truthful consistent, leave_truthful consistent⟩

-- One player is in the room that it has made, and another one is in none.
theorem replies_truthful_two_players : ∃ server : CCentralizedServer,
    (server.getPlayer 5).isSome = true ∧ (server.getPlayer 6).isSome = true ∧
    server.roomManager.listed.map (fun room => room.players.map CPlayer.sessionId) = [[5]] ∧
    server.CreateTruthful ∧ server.JoinTruthful ∧ server.LeaveTruthful := by
  let second : Input := ⟨⟨.connected, 6, []⟩, .zeros 256⟩
  have truthful := replies_truthful (oneVisit.take 2 ++ [second]) (by decide +kernel)
  exact ⟨_, by decide +kernel, by decide +kernel, by decide +kernel, truthful⟩

end MiniGames.CCentralizedServer
