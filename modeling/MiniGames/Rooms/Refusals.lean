import MiniGames.Rooms.Requests
import MiniGames.Shared.Logs

set_option autoImplicit false

namespace MiniGames.CCentralizedServer

open Logs

def Refused : ServerMessage → Prop
  | .roomCreated _ success => success = false
  | .roomJoined _ success => success = false
  | .roomLeft success => success = false
  | _ => False

structure Unchanged (before after : CRoomManager CPlayer) : Prop where
  roomList : after.roomList = before.roomList
  roomMap : after.roomMap = before.roomMap
  playerToRoomMap : after.playerToRoomMap = before.playerToRoomMap
  rooms : ∀ ptr ∈ before.roomList, after.rooms ptr = before.rooms ptr

theorem unchanged_self (manager : CRoomManager CPlayer) : Unchanged manager manager :=
  ⟨rfl, rfl, rfl, fun _ _ => rfl⟩

-- A valid CREATE_ROOM of a player that is in a room already.
def CreatesUnjoined (server : CCentralizedServer) (player : CPlayer) (data : List UInt8) : Prop :=
  dispatched data = some .c2sCreateRoom ∧
    validParameters (requestedTitle data) (requestedMaxPlayers data) = true ∧
    server.roomManager.findRoomByTitle (requestedTitle data) = none ∧
    (server.roomManager.playerToRoomMap.lookup player).isSome

-- A LEAVE_ROOM of a player whose room is not in the map.
def LeavesMissing (server : CCentralizedServer) (player : CPlayer) (data : List UInt8) : Prop :=
  dispatched data = some .c2sLeaveRoom ∧
    ∃ roomId, server.roomManager.playerToRoomMap.lookup player = some roomId ∧
      server.roomManager.findRoom roomId = none

def Disturbs (server : CCentralizedServer) (player : CPlayer) (data : List UInt8) : Prop :=
  server.CreatesUnjoined player data ∨ server.LeavesMissing player data

def RefusedUnchanged (server : CCentralizedServer)
    (handled : CCentralizedServer × List Sent) : Prop :=
  ∀ reply ∈ handled.2, Refused reply.2 → Unchanged server.roomManager handled.1.roomManager

-- The event is no request that Disturbs speaks of.
def Calm (server : CCentralizedServer) (event : NetworkEvent) : Prop :=
  event.type = .received → ∀ player, server.getPlayer event.sessionId = some player →
    ¬ server.Disturbs player event.data

section Requests

variable {server : CCentralizedServer} {stale : Stale} {player : CPlayer} {data : List UInt8}

theorem create_refused_iff (routed : dispatched data = some .c2sCreateRoom) :
    server.RefusedUnchanged (handleRequest stale server player data) ↔ ¬ server.CreatesUnjoined player data := by
  simp only [RefusedUnchanged, handleRequest, routed]
  rcases handleCreateRoom_cases stale server player data with
    ⟨valid, unused, handled⟩ | ⟨invalid, _, handled⟩
  · rw [handled]
    cases placed : server.roomManager.playerToRoomMap.lookup player with
    | none =>
      rw [createAndJoin_accepted placed (positive_of_valid valid)]
      apply iff_of_true
      · intro reply member refused
        simp only [if_true, List.mem_singleton] at member
        rw [member] at refused
        cases refused
      · intro unjoined
        have there := unjoined.2.2.2
        rw [placed] at there
        cases there
    | some roomId =>
      have there : (server.roomManager.playerToRoomMap.lookup player).isSome := by simp [placed]
      rw [createAndJoin_refused there]
      apply iff_of_false
      · intro unchanged
        have same := (unchanged _ (List.mem_cons_self ..) rfl).roomList
        have longer := congrArg List.length same
        simp [withRooms, CRoomManager.createRoom] at longer
      · exact not_not_intro ⟨routed, valid, unused, there⟩
  · rw [handled]
    apply iff_of_true
    · intro reply member refused
      exact unchanged_self _
    · intro unjoined
      exact invalid ⟨unjoined.2.1, unjoined.2.2.1⟩

theorem join_refused (routed : dispatched data = some .c2sJoinRoom) :
    server.RefusedUnchanged (handleRequest stale server player data) := by
  simp only [RefusedUnchanged, handleRequest, routed, handleJoinRoom]
  rcases server.roomManager.joinRoom_cases (requestedRoomId data) (some player) with
    ⟨_, _, _, _, joined⟩ | ⟨_, refused⟩
  · rw [joined]
    intro reply member refused
    simp only [if_true, List.mem_singleton] at member
    rw [member] at refused
    cases refused
  · rw [refused]
    intro reply member refused
    exact unchanged_self _

theorem leave_refused_iff (routed : dispatched data = some .c2sLeaveRoom) :
    server.RefusedUnchanged (handleRequest stale server player data) ↔ ¬ server.LeavesMissing player data := by
  simp only [RefusedUnchanged, handleRequest, routed, handleLeaveRoom, List.mem_singleton,
    forall_eq, sendRoomLeft, Refused, LeavesMissing, true_and]
  cases placed : server.roomManager.playerToRoomMap.lookup player with
  | none =>
    rw [CRoomManager.leaveRoom_unplaced placed]
    apply iff_of_true
    · intro refused
      exact unchanged_self _
    · simp
  | some roomId =>
    cases found : server.roomManager.findRoom roomId with
    | none =>
      rw [CRoomManager.leaveRoom_missing placed found]
      apply iff_of_false
      · intro unchanged
        have same := congrArg (AList.lookup player) (unchanged rfl).playerToRoomMap
        simp [placed] at same
      · exact not_not_intro ⟨roomId, rfl, found⟩
    | some ptr =>
      rw [CRoomManager.leaveRoom_found placed found]
      apply iff_of_true
      · intro refused
        cases refused
      · rintro ⟨other, same, missing⟩
        cases same
        rw [found] at missing
        cases missing

theorem quiet_refused {handled : CCentralizedServer × List Sent}
    (silent : ∀ reply ∈ handled.2, ¬ Refused reply.2) : server.RefusedUnchanged handled := by
  intro reply member refused
  exact absurd refused (silent reply member)

theorem refused_iff : server.RefusedUnchanged (handleRequest stale server player data) ↔
    ¬ server.Disturbs player data := by
  rw [Disturbs, not_or]
  by_cases create : dispatched data = some .c2sCreateRoom
  · have other : ¬ server.LeavesMissing player data := by simp [LeavesMissing, create]
    rw [create_refused_iff create]
    exact ⟨fun unjoined => ⟨unjoined, other⟩, And.left⟩
  · have created : ¬ server.CreatesUnjoined player data := fun unjoined => create unjoined.1
    by_cases leave : dispatched data = some .c2sLeaveRoom
    · rw [leave_refused_iff leave]
      exact ⟨fun missing => ⟨created, missing⟩, And.right⟩
    · apply iff_of_true _ ⟨created, fun missing => leave missing.1⟩
      by_cases join : dispatched data = some .c2sJoinRoom
      · exact join_refused join
      · apply quiet_refused
        intro reply member refused
        simp only [handleRequest] at member
        split at member
        · cases List.mem_singleton.mp member
          exact refused
        · next create' => exact create create'
        · next join' => exact join join'
        · next leave' => exact leave leave'
        · cases member

theorem dispatch_refused_iff {event : NetworkEvent} :
    server.RefusedUnchanged (dispatch stale server event) ↔ server.Calm event := by
  cases type : event.type with
  | connected =>
    apply iff_of_true
    · apply quiet_refused
      intro reply member refused
      simp only [dispatch, type, dispatchClientConnected, List.mem_singleton] at member
      rw [member] at refused
      exact refused
    · simp [Calm, type]
  | disconnected =>
    apply iff_of_true
    · apply quiet_refused
      simp [dispatch, type]
    · simp [Calm, type]
  | received =>
    cases known : server.getPlayer event.sessionId with
    | none =>
      apply iff_of_true
      · apply quiet_refused
        simp [dispatch, type, dispatchDataReceived, known]
      · simp [Calm, known]
    | some player =>
      rw [dispatch_request stale type known, refused_iff]
      simp [Calm, type, known]

end Requests

/-- No listed room is empty; this needs no bound on the creations. -/
structure Occupied (manager : CRoomManager CPlayer) : Prop where
  made : ∀ ptr ∈ manager.roomList, ptr < manager.allocated
  mapped : ∀ roomId ptr, manager.findRoom roomId = some ptr →
    ptr ∈ manager.roomList ∧ (manager.rooms ptr).roomId = roomId
  sound : ∀ ptr ∈ manager.roomList, (manager.rooms ptr).Sound
  occupied : ∀ ptr ∈ manager.roomList, (manager.rooms ptr).players ≠ []

theorem new_occupied : Occupied .new where
  made _ member := absurd member List.not_mem_nil
  mapped _ _ found := by simp [CRoomManager.new, CRoomManager.findRoom] at found
  sound _ member := absurd member List.not_mem_nil
  occupied _ member := absurd member List.not_mem_nil

namespace Occupied

variable {manager : CRoomManager CPlayer} (occupied : Occupied manager)

include occupied

theorem change {ptr : Nat} {room : CRoom CPlayer} (sound : room.Sound) (inside : room.players ≠ [])
    (same : room.roomId = (manager.rooms ptr).roomId) (players : AList fun _ : CPlayer => Int32) :
    Occupied { manager.store ptr room with playerToRoomMap := players } where
  made := occupied.made
  mapped roomId other found := by
    obtain ⟨member, named⟩ := occupied.mapped roomId other found
    simp only [CRoomManager.store, Function.update_apply]
    split
    · next here => exact ⟨member, by rw [same, ← here, named]⟩
    · exact ⟨member, named⟩
  sound other member := by
    simp only [CRoomManager.store, Function.update_apply]
    split
    · exact sound
    · exact occupied.sound other member
  occupied other member := by
    simp only [CRoomManager.store, Function.update_apply]
    split
    · exact inside
    · exact occupied.occupied other member

theorem joinRoom (roomId : Int32) (player : CPlayer) :
    Occupied (manager.joinRoom roomId (some player)).1 := by
  rcases manager.joinRoom_cases roomId (some player) with ⟨_, ptr, same, joinable, joined⟩ | ⟨_, refused⟩
  · cases same
    rw [joined]
    have member := (occupied.mapped roomId ptr joinable.found).1
    apply occupied.change ((occupied.sound ptr member).append joinable.roomy joinable.absent)
    · simp
    · rfl
  · rw [refused]
    exact occupied

theorem createAndJoin {title : List UInt8} {maxPlayers : Int32} {player : CPlayer}
    (unplaced : manager.playerToRoomMap.lookup player = none) (positive : 0 < maxPlayers) :
    Occupied (createAndJoin manager title maxPlayers player).1 := by
  rw [createAndJoin_accepted unplaced positive]
  constructor
  case made =>
    intro ptr member
    rcases List.mem_cons.mp member with rfl | member
    · exact Nat.lt_succ_self _
    · exact Nat.lt_succ_of_lt (occupied.made ptr member)
  case mapped =>
    intro roomId ptr found
    have found : (manager.roomMap.insert manager.roomIdCounter manager.allocated).lookup roomId =
      some ptr := found
    by_cases same : roomId = manager.roomIdCounter
    · rw [same, AList.lookup_insert] at found
      cases found
      rw [created_room, same]
      exact ⟨List.mem_cons_self, rfl⟩
    · rw [AList.lookup_insert_ne same] at found
      obtain ⟨member, named⟩ := occupied.mapped roomId ptr found
      rw [created_others player (occupied.made ptr member)]
      exact ⟨List.mem_cons_of_mem _ member, named⟩
  case sound =>
    intro ptr member
    rcases List.mem_cons.mp member with rfl | member
    · have joinable : (manager.createRoom title maxPlayers).1.Joinable manager.roomIdCounter player
          manager.allocated := createAndJoin_joinable unplaced positive
      rw [created_room]
      apply (CRoom.Sound.new_sound _ _ positive).append
      · simpa [CRoomManager.createRoom, CRoomManager.store] using joinable.roomy
      · exact List.not_mem_nil
    · rw [created_others player (occupied.made ptr member)]
      exact occupied.sound ptr member
  case occupied =>
    intro ptr member
    rcases List.mem_cons.mp member with rfl | member
    · rw [created_room]
      simp
    · rw [created_others player (occupied.made ptr member)]
      exact occupied.occupied ptr member

theorem drop {roomId : Int32} {player : CPlayer} {ptr : Nat}
    (found : manager.findRoom roomId = some ptr) :
    Occupied ((manager.vacate player ptr).deleteRoom roomId).1 := by
  obtain ⟨_, named⟩ := occupied.mapped roomId ptr found
  have there : (manager.vacate player ptr).roomMap.lookup roomId = some ptr := found
  have kept {other : Nat} (differs : other ≠ ptr) :
      (manager.vacate player ptr).rooms other = manager.rooms other :=
    Function.update_of_ne differs ..
  simp only [CRoomManager.deleteRoom, there]
  constructor
  case made =>
    intro other member
    exact occupied.made other (List.mem_of_mem_filter member)
  case mapped =>
    intro otherId other seen
    have seen : (manager.roomMap.erase roomId).lookup otherId = some other := seen
    by_cases same : otherId = roomId
    · rw [same, AList.lookup_erase] at seen
      cases seen
    · rw [AList.lookup_erase_ne same] at seen
      obtain ⟨member, called⟩ := occupied.mapped otherId other seen
      have differs : other ≠ ptr := by
        intro here
        rw [here, named] at called
        exact same called.symm
      simp only [kept differs]
      exact ⟨List.mem_filter.mpr ⟨member, by simpa using differs⟩, called⟩
  case sound =>
    intro other member
    obtain ⟨member, differs⟩ := List.mem_filter.mp member
    simp only [kept (by simpa using differs)]
    exact occupied.sound other member
  case occupied =>
    intro other member
    obtain ⟨member, differs⟩ := List.mem_filter.mp member
    simp only [kept (by simpa using differs)]
    exact occupied.occupied other member

theorem leaveRoom (player : CPlayer) : Occupied (manager.leaveRoom (some player)).1 := by
  cases placed : manager.playerToRoomMap.lookup player with
  | none =>
    rw [CRoomManager.leaveRoom_unplaced placed]
    exact occupied
  | some roomId =>
    cases found : manager.findRoom roomId with
    | none =>
      rw [CRoomManager.leaveRoom_missing placed found]
      exact ⟨occupied.made, occupied.mapped, occupied.sound, occupied.occupied⟩
    | some ptr =>
      rw [CRoomManager.leaveRoom_found placed found, CRoomManager.depart]
      obtain ⟨member, named⟩ := occupied.mapped roomId ptr found
      have sound := (occupied.sound ptr member).removePlayer (some player)
      have vacated (inside : ((manager.rooms ptr).removePlayer (some player)).1.players ≠ []) :=
        occupied.change sound inside (CRoom.removePlayer_roomId ..)
          (manager.playerToRoomMap.erase player)
      split
      · exact occupied.drop found
      · next filled => exact vacated fun gone => filled (sound.isEmpty_iff.mpr gone)

end Occupied

theorem Occupied.dispatch {server : CCentralizedServer} (occupied : Occupied server.roomManager)
    (stale : Stale) {event : NetworkEvent} (calm : server.Calm event) :
    Occupied (dispatch stale server event).1.roomManager := by
  cases type : event.type with
  | connected =>
    simp only [CCentralizedServer.dispatch, type]
    exact occupied
  | disconnected =>
    simp only [CCentralizedServer.dispatch, type, dispatchClientDisconnected]
    split
    · exact occupied
    · exact occupied.leaveRoom _
  | received =>
    cases known : server.getPlayer event.sessionId with
    | none =>
      simp only [CCentralizedServer.dispatch, type, dispatchDataReceived, known]
      exact occupied
    | some player =>
      have calm := calm type player known
      rw [dispatch_request stale type known]
      simp only [handleRequest]
      split
      · exact occupied
      · next routed =>
        rcases handleCreateRoom_cases stale server player event.data with
          ⟨valid, unused, handled⟩ | ⟨_, _, handled⟩
        · rw [handled]
          apply occupied.createAndJoin _ (positive_of_valid valid)
          apply Option.not_isSome_iff_eq_none.mp
          intro placed
          exact calm (.inl ⟨routed, valid, unused, placed⟩)
        · rw [handled]
          exact occupied
      · exact occupied.joinRoom ..
      · exact occupied.leaveRoom _
      · exact occupied

-- Every event of the run is calm in the state it finds.
def CalmRun (inputs : List Input) : Prop :=
  Ordered (fun earlier input => (after earlier).Calm input.event) inputs

theorem after_occupied (inputs : List Input) (calm : CalmRun inputs) :
    Occupied (after inputs).roomManager := by
  induction inputs using List.reverseRecOn with
  | nil => exact new_occupied
  | append_singleton inputs input ih =>
    obtain ⟨earlier, last⟩ := calm.of_append
    rw [after_append]
    exact (ih earlier).dispatch input.stale last

theorem not_leavesMissing {server : CCentralizedServer} (consistent : server.roomManager.Consistent)
    (player : CPlayer) (data : List UInt8) : ¬ server.LeavesMissing player data := by
  intro ⟨_, roomId, placed, missing⟩
  have there := consistent.findRoom_isSome placed
  rw [missing] at there
  cases there

/-- A refused request changes nothing, and no listed room is empty, but for valid requests of a
player in a room to create another. -/
theorem refusals_change_nothing (inputs : List Input) :
    (∀ stale event, RefusedUnchanged (after inputs) (dispatch stale (after inputs) event) ↔
      (after inputs).Calm event) ∧
    (CalmRun inputs → ∀ room ∈ (after inputs).roomManager.listed, room.players ≠ []) ∧
    ((after inputs).roomManager.allocated < 2 ^ 31 → ∀ player data,
      ((after inputs).Disturbs player data ↔ (after inputs).CreatesUnjoined player data)) := by
  refine ⟨fun _ _ => dispatch_refused_iff, ?_, ?_⟩
  · intro calm room member
    obtain ⟨ptr, listed, rfl⟩ := List.mem_map.mp member
    exact (after_occupied inputs calm).occupied ptr listed
  · intro few player data
    have missing := not_leavesMissing (after_consistent inputs few) player data
    exact ⟨fun disturbs => disturbs.resolve_right missing, .inl⟩

-- The player of room "a" asks for a room "b".
theorem refused_create_leaves_room : ∃ inputs stale event,
    (∃ reply ∈ (dispatch stale (after inputs) event).2, Refused reply.2) ∧
    ¬ Unchanged (after inputs).roomManager (dispatch stale (after inputs) event).1.roomManager ∧
    ∃ room ∈ (dispatch stale (after inputs) event).1.roomManager.listed, room.players = [] := by
  let again := ClientMessage.encode (.createRoom ((CharArray.zeros 64).strncpy [98]) 2)
  refine ⟨oneVisit.take 2, .zeros 256, ⟨.received, 5, again⟩, ?_, ?_, ?_⟩
  · refine ⟨(5, .roomCreated 2 false), ?_, rfl⟩
    decide +kernel
  · intro unchanged
    have same := unchanged.roomList
    revert same
    decide +kernel
  · decide +kernel

end MiniGames.CCentralizedServer
