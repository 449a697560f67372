import MiniGames.Rooms.GameTurns

set_option autoImplicit false

namespace MiniGames

open CCentralizedServer

namespace CRoomManager

variable {Player : Type} [DecidableEq Player]

theorem joinRoom_other (manager : CRoomManager Player) (roomId : Int32) {joining player : Player}
    (differs : player ≠ joining) :
    (manager.joinRoom roomId (some joining)).1.playerToRoomMap.lookup player =
      manager.playerToRoomMap.lookup player := by
  rcases manager.joinRoom_cases roomId (some joining) with ⟨_, _, same, _, joined⟩ | ⟨_, refused⟩
  · cases same
    rw [joined]
    exact AList.lookup_insert_ne differs
  · rw [refused]

theorem joinRoom_placed (manager : CRoomManager Player) (roomId : Int32) {joining player : Player}
    {placed : Int32} (after : (manager.joinRoom roomId (some joining)).1.playerToRoomMap.lookup player
      = some placed) :
    player = joining ∨ manager.playerToRoomMap.lookup player = some placed := by
  by_cases same : player = joining
  · exact .inl same
  · exact .inr ((manager.joinRoom_other roomId same).symm.trans after)

theorem Consistent.leaveRoom_other {manager : CRoomManager Player}
    (consistent : manager.Consistent) {leaving player : Player} (differs : player ≠ leaving) :
    (manager.leaveRoom (some leaving)).1.playerToRoomMap.lookup player =
      manager.playerToRoomMap.lookup player := by
  cases placed : manager.playerToRoomMap.lookup leaving with
  | none => rw [leaveRoom_unplaced placed]
  | some roomId => rw [(consistent.hasLeft placed).placed, if_neg differs]

theorem Consistent.leaveRoom_placed {manager : CRoomManager Player}
    (consistent : manager.Consistent) {leaving player : Player} {placed : Int32}
    (after : (manager.leaveRoom (some leaving)).1.playerToRoomMap.lookup player = some placed) :
    player ≠ leaving ∧ manager.playerToRoomMap.lookup player = some placed := by
  rcases consistent.leaveRoom_cases (some leaving) with ⟨_, _, _, same, seated, left⟩ | ⟨out, refused⟩
  · cases same
    rw [left, consistent.depart_players seated] at after
    by_cases same : player = leaving
    · rw [same, AList.lookup_erase] at after
      cases after
    · exact ⟨same, (AList.lookup_erase_ne same).symm.trans after⟩
  · rw [refused] at after
    constructor
    · intro same
      rw [same, out leaving rfl] at after
      cases after
    · exact after

end CRoomManager

namespace CCentralizedServer

theorem validParameters_iff {title : List UInt8} {maxPlayers : Int32} :
    validParameters title maxPlayers = true ↔ title ≠ [] ∧ 2 ≤ maxPlayers ∧ maxPlayers ≤ 10 := by
  simp [validParameters, not_or, Int32.not_lt]

theorem positive_of_valid {title : List UInt8} {maxPlayers : Int32}
    (valid : validParameters title maxPlayers = true) : 0 < maxPlayers := by
  have two := (validParameters_iff.mp valid).2.1
  rw [Int32.le_iff_toInt_le] at two
  rw [Int32.lt_iff_toInt_lt]
  exact Int.lt_of_lt_of_le (by decide) two

theorem consistent_createAndJoin {manager : CRoomManager CPlayer} (consistent : manager.Consistent)
    (room : manager.allocated + 1 < 2 ^ 31) {title : List UInt8} {maxPlayers : Int32}
    (valid : validParameters title maxPlayers = true) (player : CPlayer) :
    (createAndJoin manager title maxPlayers player).1.Consistent :=
  (consistent.createRoom room title (positive_of_valid valid)).joinRoom ..

theorem Turn.consistent {server next : CCentralizedServer} {event : NetworkEvent}
    (turn : Turn server event next) (consistent : server.roomManager.Consistent)
    (few : next.roomManager.allocated < 2 ^ 31) : next.roomManager.Consistent := by
  cases turn with
  | connect | ignore | idle => exact consistent
  | disconnect | leave => exact consistent.leaveRoom _
  | create received found valid unused =>
    rw [withRooms, createAndJoin_allocated] at few
    exact consistent_createAndJoin consistent few valid _
  | join received found roomId => exact consistent.joinRoom ..

theorem connected_getPlayer (server : CCentralizedServer) (sessionId other : SessionId) :
    (server.dispatchClientConnected sessionId).1.getPlayer other =
      if other = sessionId then some ⟨server.made, sessionId⟩ else server.getPlayer other := by
  simp only [dispatchClientConnected, addPlayer, getPlayer]
  split
  · next same => rw [same, AList.lookup_insert]
  · next differs => rw [AList.lookup_insert_ne differs]

theorem removePlayer_getPlayer (server : CCentralizedServer) (sessionId other : SessionId) :
    (server.removePlayer sessionId).getPlayer other =
      if other = sessionId then none else server.getPlayer other := by
  simp only [removePlayer, getPlayer]
  split
  · next same => rw [same, AList.lookup_erase]
  · next differs => rw [AList.lookup_erase_ne differs]

section Turns

variable {server next : CCentralizedServer} {event : NetworkEvent}

theorem Turn.known (turn : Turn server event next) {sessionId : SessionId} {player : CPlayer}
    (found : next.getPlayer sessionId = some player) :
    server.getPlayer sessionId = some player ∨
      player = ⟨server.made, sessionId⟩ ∧ next.made = server.made + 1 := by
  cases turn with
  | connect connected =>
    rw [connected_getPlayer] at found
    split at found
    · next same =>
      cases found
      exact .inr ⟨by rw [same], rfl⟩
    · exact .inl found
  | disconnect gone =>
    rw [removePlayer_getPlayer] at found
    split at found
    · cases found
    · exact .inl found
  | ignore | idle | create | join | leave => exact .inl found

theorem Turn.made_le (turn : Turn server event next) : server.made ≤ next.made := by
  cases turn with
  | connect => exact Nat.le_succ _
  | ignore | disconnect | idle | create | join | leave => exact Nat.le_refl _

theorem Turn.placed (turn : Turn server event next) (consistent : server.roomManager.Consistent)
    {player : CPlayer} {roomId : Int32}
    (after : next.roomManager.playerToRoomMap.lookup player = some roomId) :
    server.getPlayer event.sessionId = some player ∨
      server.roomManager.playerToRoomMap.lookup player = some roomId := by
  cases turn with
  | connect | ignore | idle => exact .inr after
  | disconnect | leave => exact .inr (consistent.leaveRoom_placed after).2
  | create received found | join received found =>
    rcases CRoomManager.joinRoom_placed _ _ after with rfl | before
    · exact .inl found
    · exact .inr before

theorem Turn.getPlayer_other (turn : Turn server event next) {sessionId : SessionId}
    (other : sessionId ≠ event.sessionId) :
    next.getPlayer sessionId = server.getPlayer sessionId := by
  cases turn with
  | connect => rw [connected_getPlayer, if_neg other]
  | disconnect => rw [removePlayer_getPlayer, if_neg other, withRooms_getPlayer]
  | ignore | idle | create | join | leave => rfl

theorem Turn.getPlayer_received (turn : Turn server event next)
    (received : event.type = .received) (sessionId : SessionId) :
    next.getPlayer sessionId = server.getPlayer sessionId := by
  cases turn with
  | connect other | ignore other | disconnect other => cases other.symm.trans received
  | idle | create | join | leave => rfl

end Turns

/-- Whatever the order of the events, the players of the registry were made before. -/
structure Rooted (server : CCentralizedServer) : Prop where
  consistent : server.roomManager.Consistent
  ownId : ∀ sessionId player, server.getPlayer sessionId = some player →
    player.sessionId = sessionId
  made : ∀ sessionId player, server.getPlayer sessionId = some player → player.object < server.made
  seated : ∀ player roomId, server.roomManager.playerToRoomMap.lookup player = some roomId →
    player.object < server.made

theorem new_rooted : new.Rooted where
  consistent := CRoomManager.new_consistent
  ownId _ _ found := by simp [new, getPlayer] at found
  made _ _ found := by simp [new, getPlayer] at found
  seated _ _ placed := by simp [new, CRoomManager.new] at placed

theorem Rooted.turn {server next : CCentralizedServer} {event : NetworkEvent}
    (rooted : server.Rooted) (turn : Turn server event next)
    (few : next.roomManager.allocated < 2 ^ 31) : next.Rooted := by
  have more := turn.made_le
  constructor
  case consistent => exact turn.consistent rooted.consistent few
  case ownId =>
    intro sessionId player found
    rcases turn.known found with before | ⟨rfl, _⟩
    · exact rooted.ownId sessionId player before
    · rfl
  case made =>
    intro sessionId player found
    rcases turn.known found with before | ⟨rfl, grown⟩
    · exact Nat.lt_of_lt_of_le (rooted.made sessionId player before) more
    · rw [grown]
      exact Nat.lt_succ_self _
  case seated =>
    intro player roomId after
    apply Nat.lt_of_lt_of_le _ more
    rcases turn.placed rooted.consistent after with found | before
    · exact rooted.made _ player found
    · exact rooted.seated player roomId before

theorem Rooted.lookup_other {server next : CCentralizedServer} {event : NetworkEvent}
    (rooted : server.Rooted) (turn : Turn server event next) {player : CPlayer}
    (other : player.sessionId ≠ event.sessionId) :
    next.roomManager.playerToRoomMap.lookup player =
      server.roomManager.playerToRoomMap.lookup player := by
  have differs {mover : CPlayer} (found : server.getPlayer event.sessionId = some mover) :
      player ≠ mover := by
    rintro rfl
    exact other (rooted.ownId _ _ found)
  cases turn with
  | connect | ignore | idle => rfl
  | disconnect _ found | leave _ found => exact rooted.consistent.leaveRoom_other (differs found)
  | create _ found | join _ found => exact CRoomManager.joinRoom_other _ _ (differs found)

structure Populated (server : CCentralizedServer) : Prop extends Rooted server where
  known : ∀ player roomId, server.roomManager.playerToRoomMap.lookup player = some roomId →
    server.getPlayer player.sessionId = some player

theorem new_populated : new.Populated where
  toRooted := new_rooted
  known _ _ placed := by simp [new, CRoomManager.new] at placed

theorem Populated.member_known {server : CCentralizedServer} (populated : server.Populated)
    {room : CRoom CPlayer} (listed : room ∈ server.roomManager.listed) {player : CPlayer}
    (member : player ∈ room.players) : server.getPlayer player.sessionId = some player := by
  obtain ⟨ptr, present, rfl⟩ := List.mem_map.mp listed
  exact populated.known player _
    ((populated.consistent.placed player _).mpr ⟨ptr, present, rfl, member⟩)

theorem Populated.turn {server next : CCentralizedServer} {event : NetworkEvent}
    (populated : server.Populated) (turn : Turn server event next)
    (fresh : event.type = .connected → server.getPlayer event.sessionId = none)
    (few : next.roomManager.allocated < 2 ^ 31) : next.Populated := by
  apply Populated.mk (populated.toRooted.turn turn few)
  intro player roomId after
  have before : server.getPlayer player.sessionId = some player := by
    rcases turn.placed populated.consistent after with found | before
    · rw [populated.ownId _ _ found]
      exact found
    · exact populated.known player roomId before
  cases turn with
  | connect connected =>
    rw [connected_getPlayer, if_neg]
    · exact before
    · intro same
      rw [same, fresh connected] at before
      cases before
  | disconnect gone found =>
    have differs := (populated.consistent.leaveRoom_placed after).1
    rw [removePlayer_getPlayer, if_neg]
    · exact before
    · intro same
      rw [same, found] at before
      exact differs (Option.some.inj before).symm
  | ignore | idle | create | join | leave => exact before

end CCentralizedServer

end MiniGames
