import MiniGames.Client.Agreement
import MiniGames.Rooms.Titles

set_option autoImplicit false

namespace MiniGames.Client

open Runs CCentralizedServer

-- The game thread has handled neither CONNECTED nor DISCONNECTED, only the first, or both.
inductive Link where
  | before
  | online
  | gone
  deriving DecidableEq

-- What is lost with a connection stays in flight.
structure Seat where
  link : Link
  room : CRoom
  requests : List (List UInt8)
  replies : List (List UInt8)

structure Party where
  server : CCentralizedServer
  seats : SessionId → Seat

inductive PartyMove where
  | connect (stale : Stale)
  | requestRoomList
  | requestCreateRoom (stale : StaleTitle) (title : List UInt8) (maxPlayers : Int32)
  | requestJoinRoom (roomId : Int32)
  | requestLeaveRoom
  | serve (stale : Stale)
  | disconnect (stale : Stale)
  | deliver

namespace Seat

def new : Seat :=
  { link := .before
    room := .new
    requests := []
    replies := [] }

def ask (seat : Seat) (request : CRoom × ClientMessage) : Seat :=
  { seat with
    room := request.1
    requests := seat.requests ++ [request.2.encode] }

def hear (seat : Seat) (sessionId : SessionId) (sent : List Sent) : Seat :=
  { seat with replies := seat.replies ++ Dialogue.addressed sessionId sent }

/-- The game thread knows the client, and no message is on its way to it. -/
def Settled (seat : Seat) : Prop := seat.link = .online ∧ seat.replies = []

end Seat

namespace Party

def start : Party :=
  { server := .new
    seats := fun _ => .new }

def put (party : Party) (sessionId : SessionId) (seat : Seat) : Party :=
  { party with seats := Function.update party.seats sessionId seat }

def handle (party : Party) (stale : Stale) (event : NetworkEvent) : Party :=
  let handled := dispatch stale party.server event
  { server := handled.1
    seats := fun sessionId => (party.seats sessionId).hear sessionId handled.2 }

def step (party : Party) : SessionId × PartyMove → Option Party
  | (sessionId, move) =>
      let seat := party.seats sessionId
      match move with
      | .connect stale =>
          if seat.link = .before then
            some ((party.put sessionId { seat with link := .online }).handle stale
              ⟨.connected, sessionId, []⟩)
          else none
      | .requestRoomList => some (party.put sessionId (seat.ask seat.room.requestRoomList))
      | .requestCreateRoom stale title maxPlayers =>
          some (party.put sessionId (seat.ask (seat.room.requestCreateRoom stale title maxPlayers)))
      | .requestJoinRoom roomId =>
          some (party.put sessionId (seat.ask (seat.room.requestJoinRoom roomId)))
      | .requestLeaveRoom => some (party.put sessionId (seat.ask seat.room.requestLeaveRoom))
      | .serve stale =>
          match seat.link, seat.requests with
          | .online, request :: rest =>
              some ((party.put sessionId { seat with requests := rest }).handle stale
                ⟨.received, sessionId, request⟩)
          | _, _ => none
      | .disconnect stale =>
          if seat.link = .online then
            some ((party.put sessionId { seat with link := .gone }).handle stale
              ⟨.disconnected, sessionId, []⟩)
          else none
      | .deliver =>
          match seat.replies with
          | [] => none
          | message :: rest =>
              some (party.put sessionId { seat with
                room := receive seat.room message
                replies := rest })

@[simp] theorem put_server (party : Party) (sessionId : SessionId) (seat : Seat) :
    (party.put sessionId seat).server = party.server := rfl

@[simp] theorem put_self (party : Party) (sessionId : SessionId) (seat : Seat) :
    (party.put sessionId seat).seats sessionId = seat := Function.update_self ..

theorem put_other (party : Party) {sessionId other : SessionId} (differs : other ≠ sessionId)
    (seat : Seat) : (party.put sessionId seat).seats other = party.seats other :=
  Function.update_of_ne differs ..

-- The link before an event of each type, and behind it.
def expected : EventType → Link × Link
  | .connected => (.before, .online)
  | .received => (.online, .online)
  | .disconnected => (.online, .gone)

inductive Moved (party : Party) (sessionId : SessionId) : Party → Prop where
  | handled (seat : Seat) (stale : Stale) (event : NetworkEvent) (own : event.sessionId = sessionId)
      (before : (party.seats sessionId).link = (expected event.type).1)
      (behind : seat.link = (expected event.type).2) :
      Moved party sessionId ((party.put sessionId seat).handle stale event)
  | put (seat : Seat) (link : seat.link = (party.seats sessionId).link) :
      Moved party sessionId (party.put sessionId seat)

theorem step_moved {party next : Party} {sessionId : SessionId} {move : PartyMove}
    (taken : party.step (sessionId, move) = some next) : party.Moved sessionId next := by
  cases move with
  | connect stale =>
    simp only [step] at taken
    split at taken
    · next waiting =>
      cases taken
      exact .handled _ stale ⟨.connected, sessionId, []⟩ rfl waiting rfl
    · cases taken
  | requestRoomList | requestCreateRoom | requestJoinRoom | requestLeaveRoom =>
    cases taken
    exact .put _ rfl
  | serve stale =>
    simp only [step] at taken
    split at taken
    · next request rest online _ =>
      cases taken
      exact .handled _ stale ⟨.received, sessionId, request⟩ rfl online online
    · cases taken
  | disconnect stale =>
    simp only [step] at taken
    split at taken
    · next online =>
      cases taken
      exact .handled _ stale ⟨.disconnected, sessionId, []⟩ rfl online rfl
    · cases taken
  | deliver =>
    simp only [step] at taken
    split at taken
    · cases taken
    · cases taken
      exact .put _ rfl

theorem Moved.gone {party next : Party} {sessionId other : SessionId}
    (moved : party.Moved sessionId next) (gone : (party.seats other).link = .gone) :
    (next.seats other).link = .gone := by
  by_cases same : other = sessionId
  · subst same
    cases moved with
    | handled seat stale event own before =>
      rw [gone] at before
      cases type : event.type <;> rw [type] at before <;> cases before
    | put seat link => rw [put_self, link, gone]
  · cases moved with
    | handled seat =>
      simp only [handle, Seat.hear]
      rw [put_other party same, gone]
    | put seat => rw [put_other party same, gone]

theorem Moved.allocated_le {party next : Party} {sessionId : SessionId}
    (moved : party.Moved sessionId next) :
    party.server.roomManager.allocated ≤ next.server.roomManager.allocated := by
  cases moved with
  | handled seat stale event => exact (dispatch_turn stale party.server event).allocated_le
  | put => exact Nat.le_refl _

/-- What the party is for one client, the others being its environment. -/
structure Projects (sessionId : SessionId) (party : Party) (dialogue : Dialogue) : Prop where
  server : dialogue.server = party.server
  connected : dialogue.connected = decide ((party.seats sessionId).link = .online)
  room : dialogue.room = (party.seats sessionId).room
  requests : dialogue.requests = (party.seats sessionId).requests
  replies : dialogue.replies.map Prod.fst = (party.seats sessionId).replies

namespace Projects

variable {sessionId : SessionId} {party next : Party} {dialogue : Dialogue}
  (projects : Projects sessionId party dialogue)

include projects

theorem ask {request : CRoom × ClientMessage} : Projects sessionId
    (party.put sessionId ((party.seats sessionId).ask request)) (dialogue.ask request) where
  server := projects.server
  connected := by
    rw [put_self]
    exact projects.connected
  room := by rw [put_self]; rfl
  requests := by
    rw [put_self]
    exact congrArg (· ++ [request.2.encode]) projects.requests
  replies := by
    rw [put_self]
    exact projects.replies

theorem own {move : PartyMove} (taken : party.step (sessionId, move) = some next)
    (alive : (next.seats sessionId).link ≠ .gone) :
    ∃ action later, dialogue.step sessionId action = some later ∧
      Projects sessionId next later := by
  have ⟨server, connected, room, requests, replies⟩ := projects
  cases move with
  | connect stale =>
    simp only [step] at taken
    split at taken
    · next waiting =>
      cases taken
      refine ⟨.connect stale, _, if_neg (by simp [connected, waiting]), ?_⟩
      constructor <;> simp [handle, Seat.hear, server, room, requests, replies, Dialogue.untagged_messages]
    · cases taken
  | requestRoomList =>
    cases taken
    exact ⟨.requestRoomList, _, rfl, room ▸ projects.ask⟩
  | requestCreateRoom stale title maxPlayers =>
    cases taken
    exact ⟨.requestCreateRoom stale title maxPlayers, _, rfl, room ▸ projects.ask⟩
  | requestJoinRoom roomId =>
    cases taken
    exact ⟨.requestJoinRoom roomId, _, rfl, room ▸ projects.ask⟩
  | requestLeaveRoom =>
    cases taken
    exact ⟨.requestLeaveRoom, _, rfl, room ▸ projects.ask⟩
  | serve stale =>
    simp only [step] at taken
    split at taken
    · next request rest online pending =>
      cases taken
      have served : dialogue.connected = true := by simp [connected, online]
      refine ⟨.serve stale, _, by simp only [Dialogue.step, served, requests, pending]; rfl, ?_⟩
      constructor <;> simp [handle, Seat.hear, server, room, online, replies, Dialogue.tagLast_messages]
    · cases taken
  | disconnect stale =>
    simp only [step] at taken
    split at taken
    · cases taken
      simp [handle, Seat.hear] at alive
    · cases taken
  | deliver =>
    simp only [step] at taken
    split at taken
    · cases taken
    · next message rest waiting =>
      cases taken
      rw [waiting] at replies
      obtain ⟨⟨first, tag⟩, others, split, rfl, same⟩ := List.map_eq_cons_iff.mp replies
      refine ⟨.deliver, _, by simp only [Dialogue.step, split]; rfl, ?_⟩
      constructor <;> simp [server, connected, room, requests, same]

theorem other {mover : SessionId} (moved : party.Moved mover next) (differs : sessionId ≠ mover) :
    Projects sessionId next dialogue ∨
      ∃ action later, dialogue.step sessionId action = some later ∧
        Projects sessionId next later := by
  have ⟨server, connected, room, requests, replies⟩ := projects
  cases moved with
  | handled seat stale event own =>
    refine .inr ⟨.other event stale, _, if_neg (own ▸ differs.symm), ?_⟩
    constructor <;> simp [handle, Seat.hear, put_other party differs, server, connected, room,
      requests, replies, Dialogue.untagged_messages]
  | put seat =>
    refine .inl ⟨server, ?_, ?_, ?_, ?_⟩ <;> rw [put_other party differs] <;> assumption

end Projects

theorem start_projects (sessionId : SessionId) : Projects sessionId start Dialogue.start :=
  ⟨rfl, rfl, rfl, rfl, rfl⟩

theorem reachable_projects {party : Party} (reached : Reachable step Always start party)
    {sessionId : SessionId} (alive : (party.seats sessionId).link ≠ .gone) :
    ∃ dialogue, Reachable (Dialogue.step sessionId) Always Dialogue.start dialogue ∧
      Projects sessionId party dialogue := by
  refine reached.refines (fun party => (party.seats sessionId).link ≠ .gone)
    (Projects sessionId) ?_ (start_projects sessionId) ?_ alive
  · rintro party ⟨mover, move⟩ next _ taken alive gone
    exact alive ((step_moved taken).gone gone)
  · rintro party dialogue ⟨mover, move⟩ next _ _ projects _ taken alive
    by_cases same : sessionId = mover
    · subst same
      exact .inr (projects.own taken alive)
    · exact projects.other (step_moved taken) same

structure Sound (party : Party) : Prop where
  populated : party.server.Populated
  online : ∀ sessionId, (party.server.getPlayer sessionId).isSome =
    decide ((party.seats sessionId).link = .online)
  limit : ∀ ptr ∈ party.server.roomManager.roomList,
    (party.server.roomManager.rooms ptr).maxPlayers ≤ 10

theorem start_sound : start.Sound where
  populated := new_populated
  online _ := rfl
  limit _ member := absurd member List.not_mem_nil

theorem dispatch_limit (stale : Stale) {server : CCentralizedServer} (event : NetworkEvent)
    (made : ∀ ptr ∈ server.roomManager.roomList, ptr < server.roomManager.allocated)
    (limit : ∀ ptr ∈ server.roomManager.roomList, (server.roomManager.rooms ptr).maxPlayers ≤ 10) :
    ∀ ptr ∈ (dispatch stale server event).1.roomManager.roomList,
      ((dispatch stale server event).1.roomManager.rooms ptr).maxPlayers ≤ 10 := by
  have kept (ptr : Nat) (member : ptr ∈ server.roomManager.roomList) :
      ((dispatch stale server event).1.roomManager.rooms ptr).maxPlayers ≤ 10 := by
    have same := (dispatch_turn stale server event).terms (made ptr member)
    have same := congrArg (fun terms => terms.2.2) same
    exact Int32.le_trans (Int32.le_of_eq same) (limit ptr member)
  rcases dispatch_rooms stale server event with ⟨creates, player, rooms⟩ | ⟨_, shrunk⟩
  · intro ptr member
    rw [rooms, createAndJoin, CRoomManager.joinRoom_roomList] at member
    rcases List.mem_cons.mp member with rfl | member
    · have same := congrArg (fun terms => terms.2.2) (CRoomManager.joinRoom_terms
        (server.roomManager.createRoom (requestedTitle event.data)
          (requestedMaxPlayers event.data)).1 server.roomManager.roomIdCounter (some player)
        server.roomManager.allocated)
      rw [rooms, createAndJoin]
      refine Int32.le_trans (Int32.le_of_eq same) ?_
      simp only [CRoom.terms, CRoomManager.createRoom, CRoomManager.store,
        Function.update_self]
      exact (validParameters_iff.mp creates.valid).2.2
    · exact kept ptr member
  · exact fun ptr member => kept ptr (shrunk.roomList.subset member)

theorem dispatch_known (stale : Stale) (server : CCentralizedServer) (event : NetworkEvent)
    (known : (server.getPlayer event.sessionId).isSome =
      decide ((expected event.type).1 = .online)) :
    ((dispatch stale server event).1.getPlayer event.sessionId).isSome =
      decide ((expected event.type).2 = .online) := by
  cases type : event.type with
  | connected =>
    simp only [dispatch, type, connected_getPlayer, if_pos, expected]
    rfl
  | received =>
    rw [type] at known
    rw [(dispatch_turn stale server event).getPlayer_received type]
    exact known
  | disconnected =>
    simp only [dispatch, type, dispatchClientDisconnected]
    split
    · next unknown => rw [unknown]; rfl
    · rw [removePlayer_getPlayer, if_pos rfl]
      rfl

theorem Sound.moved {party next : Party} {sessionId : SessionId} (sound : party.Sound)
    (moved : party.Moved sessionId next) (few : next.server.roomManager.allocated < 2 ^ 31) :
    next.Sound := by
  cases moved with
  | handled seat stale event own before behind =>
    subst own
    have turn := dispatch_turn stale party.server event
    have known := sound.online event.sessionId
    rw [before] at known
    constructor
    case populated =>
      apply sound.populated.turn turn _ few
      intro connected
      rw [connected] at known
      exact Option.not_isSome_iff_eq_none.mp (by simp [known, expected])
    case online =>
      intro other
      by_cases same : other = event.sessionId
      · subst same
        simp only [handle, put_server, Seat.hear, put_self, behind]
        exact dispatch_known stale party.server event known
      · simp only [handle, put_server, Seat.hear, turn.getPlayer_other same, put_other party same]
        exact sound.online other
    case limit =>
      exact dispatch_limit stale event sound.populated.consistent.made sound.limit
  | put seat link =>
    refine ⟨sound.populated, fun other => ?_, sound.limit⟩
    by_cases same : other = sessionId
    · subst same
      rw [put_server, put_self, link, sound.online]
    · rw [put_server, put_other party same, sound.online]

theorem reachable_sound {party : Party} (reached : Reachable step Always start party)
    (few : party.server.roomManager.allocated < 2 ^ 31) : party.Sound := by
  induction reached with
  | start => exact start_sound
  | step _ _ taken ih =>
    have moved := step_moved taken
    exact (ih (Nat.lt_of_le_of_lt moved.allocated_le few)).moved moved few

theorem settled_view {party : Party} (reached : Reachable step Always start party)
    (few : party.server.roomManager.allocated < 2 ^ 31) {sessionId : SessionId}
    (settled : (party.seats sessionId).Settled) :
    (party.seats sessionId).room.view = serverView party.server sessionId := by
  have alive : (party.seats sessionId).link ≠ .gone := by simp [settled.1]
  obtain ⟨dialogue, arrived, projects⟩ := reachable_projects reached alive
  have agreeing := Dialogue.reachable_agreeing arrived (projects.server ▸ few)
  have none : dialogue.replies = [] := List.map_eq_nil_iff.mp (projects.replies.trans settled.2)
  have leads := agreeing.leads
  rw [none, projects.server, projects.room] at leads
  exact leads

structure Agreed (party : Party) : Prop where
  apart : ∀ room ∈ party.server.roomManager.listed, (room.players.map CPlayer.sessionId).Nodup
  limit : ∀ room ∈ party.server.roomManager.listed,
    (room.players.length : Int) ≤ room.maxPlayers.toInt ∧ room.maxPlayers ≤ 10
  online : ∀ room ∈ party.server.roomManager.listed, ∀ player ∈ room.players,
    (party.seats player.sessionId).link = .online
  shown : ∀ room ∈ party.server.roomManager.listed, ∀ sessionId,
    (party.seats sessionId).Settled →
      ((party.seats sessionId).room.view = (true, room.roomId) ↔
        sessionId ∈ room.players.map CPlayer.sessionId)
  listed : ∀ sessionId, (party.seats sessionId).Settled → ∀ roomId,
    (party.seats sessionId).room.view = (true, roomId) →
      ∃ room ∈ party.server.roomManager.listed, room.roomId = roomId
  crowd : ∀ roomId, ∀ clients : List SessionId, clients.Nodup →
    (∀ sessionId ∈ clients, (party.seats sessionId).Settled ∧
      (party.seats sessionId).room.view = (true, roomId)) → clients.length ≤ 10

theorem placeView_eq {placed : Option Int32} {roomId : Int32} :
    placeView placed = (true, roomId) ↔ placed = some roomId := by
  cases placed <;> simp [placeView]

section Members

variable {server : CCentralizedServer} (populated : server.Populated)

include populated

theorem serverView_member {ptr : Nat} (listed : ptr ∈ server.roomManager.roomList)
    {sessionId : SessionId} (online : (server.getPlayer sessionId).isSome) :
    serverView server sessionId = (true, (server.roomManager.rooms ptr).roomId) ↔
      sessionId ∈ (server.roomManager.rooms ptr).players.map CPlayer.sessionId := by
  obtain ⟨player, known⟩ := Option.isSome_iff_exists.mp online
  rw [serverView_known populated.consistent known, placeView_eq, populated.consistent.placed,
    List.mem_map]
  constructor
  · rintro ⟨other, present, same, member⟩
    rw [(populated.consistent.id_eq_iff listed present).mp same] at member
    exact ⟨player, member, populated.ownId _ _ known⟩
  · rintro ⟨other, member, rfl⟩
    have found := populated.member_known (List.mem_map_of_mem listed) member
    rw [known] at found
    cases found
    exact ⟨ptr, listed, rfl, member⟩

theorem members_apart {ptr : Nat} (listed : ptr ∈ server.roomManager.roomList) :
    ((server.roomManager.rooms ptr).players.map CPlayer.sessionId).Nodup := by
  apply (populated.consistent.sound ptr listed).nodup.map_on
  intro first here second there same
  have found := populated.member_known (List.mem_map_of_mem listed) here
  rw [same, populated.member_known (List.mem_map_of_mem listed) there] at found
  exact (Option.some.inj found).symm

end Members

/-- However the moves of the clients interleave, those to which no message is on its way agree with
the server, and so with each other, on who is in which room. -/
theorem rooms_shared {party : Party} (reached : Reachable step Always start party)
    (few : party.server.roomManager.allocated < 2 ^ 31) : party.Agreed := by
  have sound := reachable_sound reached few
  have consistent := sound.populated.consistent
  have view {sessionId : SessionId} (settled : (party.seats sessionId).Settled) :=
    settled_view reached few settled
  have known {sessionId : SessionId} (settled : (party.seats sessionId).Settled) :
      (party.server.getPlayer sessionId).isSome := by
    rw [sound.online, settled.1]
    rfl
  have limit : ∀ room ∈ party.server.roomManager.listed,
      (room.players.length : Int) ≤ room.maxPlayers.toInt ∧ room.maxPlayers ≤ 10 := by
    rw [CRoomManager.listed, List.forall_mem_map]
    exact fun ptr listed => ⟨(consistent.sound ptr listed).fits, sound.limit ptr listed⟩
  have shown : ∀ room ∈ party.server.roomManager.listed, ∀ sessionId,
      (party.seats sessionId).Settled →
        ((party.seats sessionId).room.view = (true, room.roomId) ↔
          sessionId ∈ room.players.map CPlayer.sessionId) := by
    rw [CRoomManager.listed, List.forall_mem_map]
    intro ptr listed sessionId settled
    rw [view settled]
    exact serverView_member sound.populated listed (known settled)
  have listed : ∀ sessionId, (party.seats sessionId).Settled → ∀ roomId,
      (party.seats sessionId).room.view = (true, roomId) →
        ∃ room ∈ party.server.roomManager.listed, room.roomId = roomId := by
    intro sessionId settled roomId same
    obtain ⟨player, found⟩ := Option.isSome_iff_exists.mp (known settled)
    rw [view settled, serverView_known consistent found, placeView_eq, consistent.placed] at same
    obtain ⟨ptr, listed, here, _⟩ := same
    exact ⟨_, List.mem_map_of_mem listed, here⟩
  constructor
  case apart =>
    rw [CRoomManager.listed, List.forall_mem_map]
    exact fun ptr listed => members_apart sound.populated listed
  case limit => exact limit
  case online =>
    intro room listed player member
    have online := sound.online player.sessionId
    rw [sound.populated.member_known listed member] at online
    exact of_decide_eq_true online.symm
  case shown => exact shown
  case listed => exact listed
  case crowd =>
    intro roomId clients nodup each
    cases clients with
    | nil => exact Nat.zero_le _
    | cons first rest =>
      obtain ⟨settled, same⟩ := each first List.mem_cons_self
      obtain ⟨room, present, rfl⟩ := listed first settled roomId same
      have inside : first :: rest ⊆ room.players.map CPlayer.sessionId := fun sessionId member =>
        (shown room present sessionId (each sessionId member).1).mp (each sessionId member).2
      have fewer := nodup.length_le_of_subset inside
      obtain ⟨fits, ten⟩ := limit room present
      rw [Int32.le_iff_toInt_le] at ten
      rw [List.length_map] at fewer
      have ten : room.maxPlayers.toInt ≤ 10 := ten
      omega

-- Two clients share a room that a third has left.
theorem rooms_shared_two : ∃ party : Party, party.Agreed ∧
    party.server.roomManager.listed.map (fun room => room.players.map CPlayer.sessionId) =
      [[2, 1]] ∧
    (party.seats 1).Settled ∧ (party.seats 1).room.view = (true, 1) ∧
    (party.seats 2).Settled ∧ (party.seats 2).room.view = (true, 1) := by
  let stale : Stale := .zeros 256
  obtain ⟨party, reached, seen⟩ := Reachable.observe step start
    [(3, .connect stale), (1, .requestJoinRoom 1), (3, .requestCreateRoom (.zeros 64) [97] 2),
      (3, .serve stale), (2, .connect stale), (2, .requestJoinRoom 1), (2, .serve stale),
      (1, .connect stale), (3, .disconnect stale), (1, .serve stale), (1, .deliver), (2, .deliver),
      (1, .deliver), (2, .deliver)]
    (fun party => party.server.roomManager.listed.map
        (fun room => room.players.map CPlayer.sessionId) = [[2, 1]] ∧
      ((party.seats 1).link = .online ∧ (party.seats 1).replies = []) ∧
      (party.seats 1).room.view = (true, 1) ∧
      ((party.seats 2).link = .online ∧ (party.seats 2).replies = []) ∧
      (party.seats 2).room.view = (true, 1) ∧
      party.server.roomManager.allocated < 2 ^ 31) (by decide +kernel)
  obtain ⟨members, first, here, second, there, few⟩ := of_decide_eq_true seen
  exact ⟨party, rooms_shared reached few, members, first, here, second, there⟩

end Party

end MiniGames.Client
