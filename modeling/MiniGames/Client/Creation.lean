import MiniGames.Client.Agreement
import MiniGames.Rooms.Terms
import MiniGames.Shared.Pairing

set_option autoImplicit false

namespace MiniGames.Client

open Runs Pairing CCentralizedServer

structure Proposal where
  title : List UInt8
  maxPlayers : Int32
  deriving DecidableEq

-- What MSG_C2S_CREATE_ROOM has room for.
def Proposal.sentTitle (proposal : Proposal) : List UInt8 := (cString proposal.title).take 63

structure Creation where
  dialogue : Dialogue
  -- Not in the source: the calls of RequestCreateRoom whose ROOM_CREATED is still to come.
  unanswered : List Proposal

namespace Creation

def start : Creation := ⟨.start, []⟩

def proposed : DialogueAction → List Proposal
  | .requestCreateRoom _ title maxPlayers => [⟨title, maxPlayers⟩]
  | _ => []

-- The ROOM_CREATED that the client processes.
def processed (dialogue : Dialogue) : DialogueAction → Option (List UInt8)
  | .deliver =>
      match dialogue.replies with
      | [] => none
      | (message, _) :: _ =>
          if handleServerMessage message = some .onRoomCreated then some message else none
  | _ => none

def remaining (state : Creation) (action : DialogueAction) : List Proposal :=
  match processed state.dialogue action with
  | some _ => state.unanswered.tail
  | none => state.unanswered ++ proposed action

def step (sessionId : SessionId) (state : Creation) (action : DialogueAction) : Option Creation :=
  (state.dialogue.step sessionId action).map fun next =>
    { dialogue := next
      unanswered := state.remaining action }

def succeeded (message : List UInt8) : Bool := messageSuccess message (sizeofMsgHeader + 4)

structure ShowsRoom (room : CRoom) (manager : CRoomManager CPlayer) (roomId : Int32) : Prop where
  made : ∃ ptr < manager.allocated, (manager.rooms ptr).roomId = roomId
  title : ∀ ptr < manager.allocated, (manager.rooms ptr).roomId = roomId →
    room.title = (manager.rooms ptr).title
  maxPlayers : ∀ ptr < manager.allocated, (manager.rooms ptr).roomId = roomId →
    room.maxPlayers = (manager.rooms ptr).maxPlayers

def Shows (state : Creation) (action : DialogueAction) : Prop :=
  ∀ message ∈ processed state.dialogue action, succeeded message = true →
    ShowsRoom (receive state.dialogue.room message) state.dialogue.server.roomManager
      (messageRoomId message)

/-- If it does, the newest call has the title that the answered one could send, and its maximum. -/
def NewestAgrees (state : Creation) (action : DialogueAction) : Prop :=
  ∀ message ∈ processed state.dialogue action, succeeded message = true →
    ∀ answered ∈ state.unanswered.head?, ∀ newest ∈ state.unanswered.getLast?,
      newest.title = answered.sentTitle ∧ newest.maxPlayers = answered.maxPlayers

def Made (manager : CRoomManager CPlayer) (roomId : Int32) (proposal : Proposal) : Prop :=
  ∃ ptr < manager.allocated,
    (manager.rooms ptr).terms = (roomId, proposal.sentTitle, proposal.maxPlayers)

def Confirms (manager : CRoomManager CPlayer) (message : List UInt8) (proposal : Proposal) : Prop :=
  ∃ roomId success, message = (ServerMessage.roomCreated roomId success).encode ∧
    (success = true → Made manager roomId proposal)

-- A message that is no ROOM_CREATED.
def Unrelated (message : List UInt8) : Prop :=
  ∃ reply : ServerMessage, message = reply.encode ∧ reply.type ≠ .s2cRoomCreated

def Proposes (request : List UInt8) (proposal : Proposal) : Prop :=
  ∃ stale : StaleTitle, request =
    (ClientMessage.createRoom (stale.strncpy proposal.title) proposal.maxPlayers).encode

-- A request that is no CREATE_ROOM.
def Otherwise (request : List UInt8) : Prop :=
  ∃ message : ClientMessage, request = message.encode ∧ message.type ≠ .c2sCreateRoom

/-- The first of the unanswered calls have their answer on the way, the others are still to be
served. -/
def Queues (manager : CRoomManager CPlayer) (messages requests : List (List UInt8))
    (unanswered : List Proposal) : Prop :=
  ∃ confirmed waiting, unanswered = confirmed ++ waiting ∧
    Paired (Confirms manager) Unrelated messages confirmed ∧
      Paired Proposes Otherwise requests waiting

structure Tracked (sessionId : SessionId) (state : Creation) : Prop where
  agreeing : state.dialogue.Agreeing sessionId
  queues : Queues state.dialogue.server.roomManager (state.dialogue.replies.map Prod.fst)
    state.dialogue.requests state.unanswered
  pending : ∀ newest ∈ state.unanswered.getLast?,
    state.dialogue.room.pendingTitle = newest.title ∧
      state.dialogue.room.pendingMaxPlayers = newest.maxPlayers

theorem remaining_quiet {state : Creation} {action : DialogueAction}
    (waits : processed state.dialogue action = none) (quiet : proposed action = []) :
    state.remaining action = state.unanswered := by
  rw [remaining, waits, quiet, List.append_nil]

theorem start_tracked (sessionId : SessionId) : start.Tracked sessionId where
  agreeing := Dialogue.start_agreeing sessionId
  queues := ⟨[], [], rfl, .nil, .nil⟩
  pending := by
    intro newest none
    cases none

namespace Queues

variable {manager later : CRoomManager CPlayer} {messages requests more : List (List UInt8)}
  {unanswered : List Proposal} {message request : List UInt8}
  (queues : Queues manager messages requests unanswered)

include queues

theorem served (kept : ∀ roomId proposal, Made manager roomId proposal → Made later roomId proposal) :
    Queues later messages requests unanswered := by
  obtain ⟨confirmed, waiting, split, confirms, proposes⟩ := queues
  refine ⟨confirmed, waiting, split, confirms.mono ?_, proposes⟩
  rintro message proposal ⟨roomId, success, same, made⟩
  exact ⟨roomId, success, same, fun succeeds => kept _ _ (made succeeds)⟩

theorem tells (unrelated : ∀ message ∈ more, Unrelated message) :
    Queues manager (messages ++ more) requests unanswered := by
  obtain ⟨confirmed, waiting, split, confirms, proposes⟩ := queues
  have quiet : Paired (Confirms manager) Unrelated more [] := .skipAll unrelated
  have told := confirms.append quiet
  rw [List.append_nil] at told
  exact ⟨confirmed, waiting, split, told, proposes⟩

theorem asks {proposals : List Proposal}
    (paired : Paired Proposes Otherwise [request] proposals) :
    Queues manager messages (requests ++ [request]) (unanswered ++ proposals) := by
  obtain ⟨confirmed, waiting, rfl, confirms, proposes⟩ := queues
  exact ⟨confirmed, waiting ++ proposals, List.append_assoc .., confirms, proposes.append paired⟩

end Queues

theorem Queues.serves {manager : CRoomManager CPlayer}
    {messages requests more : List (List UInt8)} {unanswered : List Proposal}
    {request : List UInt8} (queues : Queues manager messages (request :: requests) unanswered)
    (confirms : ∀ proposal, Proposes request proposal →
      Paired (Confirms manager) Unrelated more [proposal])
    (silent : Otherwise request → ∀ message ∈ more, Unrelated message) :
    Queues manager (messages ++ more) requests unanswered := by
  obtain ⟨confirmed, waiting, rfl, paired, proposes⟩ := queues
  rcases proposes.head with ⟨proposal, rest, rfl, proposed, later⟩ | ⟨other, later⟩
  · exact ⟨confirmed ++ [proposal], rest, by simp, paired.append (confirms proposal proposed), later⟩
  · have queues : Queues manager messages requests (confirmed ++ waiting) :=
      ⟨confirmed, waiting, rfl, paired, later⟩
    exact queues.tells (silent other)

theorem Queues.processes {manager : CRoomManager CPlayer}
    {messages requests : List (List UInt8)} {unanswered : List Proposal}
    {message : List UInt8} (queues : Queues manager (message :: messages) requests unanswered) :
    (∃ answered rest, unanswered = answered :: rest ∧ Confirms manager message answered ∧
      Queues manager messages requests rest) ∨
    (Unrelated message ∧ Queues manager messages requests unanswered) := by
  obtain ⟨confirmed, waiting, rfl, paired, proposes⟩ := queues
  rcases paired.head with ⟨answered, rest, rfl, confirms, later⟩ | ⟨unrelated, later⟩
  · exact .inl ⟨answered, rest ++ waiting, rfl, confirms, rest, waiting, rfl, later, proposes⟩
  · exact .inr ⟨unrelated, confirmed, waiting, rfl, later, proposes⟩

theorem receive_pending (room : CRoom) (message : List UInt8) :
    (receive room message).pendingTitle = room.pendingTitle ∧
      (receive room message).pendingMaxPlayers = room.pendingMaxPlayers := by
  simp only [receive]
  split
  · next handler _ =>
    cases handler with
    | onRoomListReceived | onError => exact ⟨rfl, rfl⟩
    | onRoomCreated | onRoomJoined | onRoomLeft =>
      simp only [Handler.run]
      split <;> exact ⟨rfl, rfl⟩
  · exact ⟨rfl, rfl⟩

theorem created_type {message : List UInt8}
    (created : handleServerMessage message = some .onRoomCreated) :
    headerType message = some .s2cRoomCreated := by
  simp only [handleServerMessage] at created
  split at created
  · cases created
  · split at created
    · cases created
    · split at created
      · split at created <;> cases created
      · assumption
      · split at created <;> cases created
      · split at created <;> cases created
      · split at created <;> cases created
      · cases created

theorem Unrelated.not_created {message : List UInt8} (unrelated : Unrelated message) :
    handleServerMessage message ≠ some .onRoomCreated := by
  obtain ⟨reply, rfl, other⟩ := unrelated
  intro created
  have type : headerType reply.encode = some reply.type := headerType_header ..
  exact other (Option.some.inj (type.symm.trans (created_type created)))

theorem Confirms.created {manager : CRoomManager CPlayer} {message : List UInt8}
    {proposal : Proposal} (confirms : Confirms manager message proposal) :
    handleServerMessage message = some .onRoomCreated := by
  obtain ⟨roomId, success, rfl, _⟩ := confirms
  have fits : (ServerMessage.roomCreated roomId success).size < 2 ^ 16 := by
    change sizeofRoomCreated < 2 ^ 16
    decide
  exact handleServerMessage_encode fits

theorem Made.turn {server next : CCentralizedServer} {event : NetworkEvent}
    (turn : CCentralizedServer.Turn server event next) {roomId : Int32} {proposal : Proposal}
    (made : Made server.roomManager roomId proposal) : Made next.roomManager roomId proposal := by
  obtain ⟨ptr, early, terms⟩ := made
  exact ⟨ptr, Nat.lt_of_lt_of_le early turn.allocated_le, (turn.terms early).trans terms⟩

theorem handleRequest_proposed (stale : Stale) (server : CCentralizedServer) (player : CPlayer)
    {request : List UInt8} {proposal : Proposal} (proposes : Proposes request proposal) :
    ∃ message rest, (handleRequest stale server player request).2 =
        (player.sessionId, message) :: rest ∧
      Confirms (handleRequest stale server player request).1.roomManager message.encode proposal ∧
      ∀ reply ∈ rest, reply.2.type ≠ .s2cRoomCreated := by
  obtain ⟨garbage, rfl⟩ := proposes
  have title := ClientMessage.requestedTitle_encode
    (garbage.strncpy_terminated proposal.title) proposal.maxPlayers
  rw [garbage.cString_strncpy proposal.title] at title
  have limit := ClientMessage.requestedMaxPlayers_encode (garbage.strncpy proposal.title)
    proposal.maxPlayers
  have routed := ClientMessage.dispatched_encode
    (.createRoom (garbage.strncpy proposal.title) proposal.maxPlayers)
  simp only [handleRequest, routed, ClientMessage.type]
  rcases handleCreateRoom_cases stale server player
    (ClientMessage.createRoom (garbage.strncpy proposal.title) proposal.maxPlayers).encode with
    ⟨valid, _, handled⟩ | ⟨_, message, handled⟩
  · rw [handled, title, limit]
    rw [title, limit] at valid
    refine ⟨_, _, rfl, ⟨_, _, rfl, fun joined => ?_⟩, ?_⟩
    · have positive := positive_of_valid valid
      have unplaced := (createAndJoin_success positive).mp joined
      simp only [createAndJoin_accepted unplaced positive, withRooms]
      refine ⟨server.roomManager.allocated, Nat.lt_succ_self _, ?_⟩
      rw [created_room]
      rfl
    · intro reply member
      split at member
      · cases member
      · rw [List.mem_singleton.mp member]
        exact MsgType.noConfusion
  · rw [handled]
    refine ⟨_, _, rfl, ⟨_, _, rfl, Bool.noConfusion⟩, ?_⟩
    intro reply member
    rw [List.mem_singleton.mp member]
    exact MsgType.noConfusion

theorem handleRequest_otherwise (stale : Stale) (server : CCentralizedServer) (player : CPlayer)
    {request : List UInt8} (other : Otherwise request) :
    ∀ reply ∈ (handleRequest stale server player request).2, reply.2.type ≠ .s2cRoomCreated := by
  obtain ⟨message, rfl, differs⟩ := other
  have routed := message.dispatched_encode
  simp only [handleRequest, routed]
  intro reply member
  cases message with
  | createRoom title maxPlayers => exact absurd rfl differs
  | requestRoomList | leaveRoom =>
    rw [List.mem_singleton.mp member]
    exact MsgType.noConfusion
  | joinRoom roomId =>
    simp only [ClientMessage.type, handleJoinRoom] at member
    rcases List.mem_cons.mp member with rfl | member
    · exact MsgType.noConfusion
    · split at member
      · cases member
      · rw [List.mem_singleton.mp member]
        exact MsgType.noConfusion

theorem unrelated_encodes {replies : List Sent}
    (other : ∀ reply ∈ replies, reply.2.type ≠ .s2cRoomCreated) :
    ∀ message ∈ replies.map (fun reply => reply.2.encode), Unrelated message := by
  intro message member
  obtain ⟨reply, sent, rfl⟩ := List.mem_map.mp member
  exact ⟨reply.2, rfl, other reply sent⟩

namespace Tracked

variable {sessionId : SessionId} {state : Creation} (tracked : state.Tracked sessionId)

include tracked

theorem queues_turn {event : NetworkEvent} {next : CCentralizedServer}
    (turn : CCentralizedServer.Turn state.dialogue.server event next) :
    Queues next.roomManager (state.dialogue.replies.map Prod.fst) state.dialogue.requests
      state.unanswered :=
  tracked.queues.served fun _ _ made => made.turn turn

theorem queues_other (stale : Stale) {event : NetworkEvent} (differs : event.sessionId ≠ sessionId) :
    Queues (dispatch stale state.dialogue.server event).1.roomManager
      ((state.dialogue.replies ++ Dialogue.untagged (Dialogue.addressed sessionId
        (dispatch stale state.dialogue.server event).2)).map Prod.fst)
      state.dialogue.requests state.unanswered := by
  have turn := dispatch_turn stale state.dialogue.server event
  have others := dispatch_addressed stale tracked.agreeing.rooted event
  rw [Dialogue.addressed_other differs others, Dialogue.untagged, List.map_nil, List.append_nil]
  exact tracked.queues_turn turn

theorem queues_connect (stale : Stale) :
    Queues (dispatch stale state.dialogue.server ⟨.connected, sessionId, []⟩).1.roomManager
      ((state.dialogue.replies ++ Dialogue.untagged (Dialogue.addressed sessionId
        (dispatch stale state.dialogue.server ⟨.connected, sessionId, []⟩).2)).map Prod.fst)
      state.dialogue.requests state.unanswered := by
  have turn := dispatch_turn stale state.dialogue.server ⟨.connected, sessionId, []⟩
  have own := dispatch_addressed stale tracked.agreeing.rooted ⟨.connected, sessionId, []⟩
  rw [Dialogue.addressed_own own, List.map_append, Dialogue.untagged_messages]
  apply (tracked.queues_turn turn).tells
  apply unrelated_encodes
  intro reply member
  rw [List.mem_singleton.mp member]
  exact MsgType.noConfusion

theorem queues_serve (stale : Stale) {request : List UInt8} {rest : List (List UInt8)}
    (connected : state.dialogue.connected = true)
    (waiting : state.dialogue.requests = request :: rest) (view : View) :
    Queues (dispatch stale state.dialogue.server ⟨.received, sessionId, request⟩).1.roomManager
      ((state.dialogue.replies ++ Dialogue.tagLast view (Dialogue.addressed sessionId
        (dispatch stale state.dialogue.server ⟨.received, sessionId, request⟩).2)).map Prod.fst)
      rest state.unanswered := by
  have turn := dispatch_turn stale state.dialogue.server ⟨.received, sessionId, request⟩
  have own := dispatch_addressed stale tracked.agreeing.rooted ⟨.received, sessionId, request⟩
  have known := tracked.agreeing.known
  rw [connected] at known
  obtain ⟨player, known⟩ := Option.isSome_iff_exists.mp known
  have queues := tracked.queues_turn turn
  rw [waiting] at queues
  rw [Dialogue.addressed_own own, List.map_append, Dialogue.tagLast_messages]
  have handled : dispatch stale state.dialogue.server ⟨.received, sessionId, request⟩ =
      handleRequest stale state.dialogue.server player request := dispatch_request stale rfl known
  rw [handled] at queues ⊢
  apply queues.serves
  · intro proposal proposes
    obtain ⟨message, more, replies, confirms, errors⟩ :=
      handleRequest_proposed stale state.dialogue.server player proposes
    rw [replies]
    exact .answer confirms (.skipAll (unrelated_encodes errors))
  · intro other
    exact unrelated_encodes (handleRequest_otherwise stale state.dialogue.server player other)

theorem ask {request : CRoom × ClientMessage} (same : request.1 = state.dialogue.room)
    (other : request.2.type ≠ .c2sCreateRoom)
    (agreeing : (state.dialogue.ask request).Agreeing sessionId) :
    Tracked sessionId ⟨state.dialogue.ask request, state.unanswered⟩ := by
  constructor
  case agreeing => exact agreeing
  case queues =>
    have asked := tracked.queues.asks (.skip ⟨request.2, rfl, other⟩ .nil)
    rw [List.append_nil] at asked
    exact asked
  case pending =>
    simp only [Dialogue.ask, same]
    exact tracked.pending

theorem propose (stale : StaleTitle) (title : List UInt8) (maxPlayers : Int32)
    (agreeing : (state.dialogue.ask (state.dialogue.room.requestCreateRoom stale title
      maxPlayers)).Agreeing sessionId) :
    Tracked sessionId ⟨state.dialogue.ask (state.dialogue.room.requestCreateRoom stale title
      maxPlayers), state.unanswered ++ [⟨title, maxPlayers⟩]⟩ := by
  constructor
  case agreeing => exact agreeing
  case queues => exact tracked.queues.asks (.answer ⟨stale, rfl⟩ .nil)
  case pending =>
    intro newest last
    rw [List.getLast?_concat] at last
    cases last
    exact ⟨rfl, rfl⟩

theorem deliver {message : List UInt8} {tag : Option View} {rest : List InFlight}
    (first : state.dialogue.replies = (message, tag) :: rest) {next : Dialogue}
    (room : next.room = receive state.dialogue.room message)
    (server : next.server = state.dialogue.server) (replies : next.replies = rest)
    (requests : next.requests = state.dialogue.requests) (agreeing : next.Agreeing sessionId) :
    Tracked sessionId ⟨next, state.remaining .deliver⟩ := by
  have queues := tracked.queues
  have pending := tracked.pending
  have kept := receive_pending state.dialogue.room message
  rw [first, List.map_cons] at queues
  rcases queues.processes with ⟨answered, later, split, confirms, queues⟩ | ⟨unrelated, queues⟩
  · have told : processed state.dialogue .deliver = some message := by
      simp only [processed, first, confirms.created, if_true]
    have remaining : state.remaining .deliver = later := by
      rw [Creation.remaining, told, split]
      rfl
    rw [remaining]
    constructor
    case agreeing => exact agreeing
    case queues =>
      simp only [server, replies, requests]
      exact queues
    case pending =>
      intro newest last
      have still : newest ∈ state.unanswered.getLast? := by
        rw [split, List.getLast?_cons, last]
        rfl
      rw [room, kept.1, kept.2]
      exact pending newest still
  · have told : processed state.dialogue .deliver = none := by
      simp only [processed, first, unrelated.not_created, if_false]
    rw [remaining_quiet told rfl]
    constructor
    case agreeing => exact agreeing
    case queues =>
      simp only [server, replies, requests]
      exact queues
    case pending =>
      rw [room, kept.1, kept.2]
      exact pending

theorem step {action : DialogueAction} {next : Creation}
    (taken : state.step sessionId action = some next)
    (few : next.dialogue.server.roomManager.allocated < 2 ^ 31) : next.Tracked sessionId := by
  obtain ⟨dialogue, moved, rfl⟩ := Option.map_eq_some_iff.mp taken
  have agreeing := tracked.agreeing.step moved few
  cases action with
  | other event stale =>
    simp only [Dialogue.step] at moved
    split at moved
    · cases moved
    · next differs =>
      cases moved
      rw [remaining_quiet rfl rfl]
      exact ⟨agreeing, tracked.queues_other stale differs, tracked.pending⟩
  | connect stale =>
    simp only [Dialogue.step] at moved
    split at moved
    · cases moved
    · cases moved
      rw [remaining_quiet rfl rfl]
      exact ⟨agreeing, tracked.queues_connect stale, tracked.pending⟩
  | requestRoomList | requestJoinRoom | requestLeaveRoom =>
    cases moved
    rw [remaining_quiet rfl rfl]
    exact tracked.ask rfl MsgType.noConfusion agreeing
  | requestCreateRoom stale title maxPlayers =>
    cases moved
    exact tracked.propose stale title maxPlayers agreeing
  | serve stale =>
    simp only [Dialogue.step] at moved
    split at moved
    · next connected waiting =>
      cases moved
      rw [remaining_quiet rfl rfl]
      exact ⟨agreeing, tracked.queues_serve stale connected waiting _, tracked.pending⟩
    · cases moved
  | deliver =>
    simp only [Dialogue.step] at moved
    split at moved
    · cases moved
    · next first =>
      cases moved
      exact tracked.deliver first rfl rfl rfl rfl agreeing

end Tracked

theorem shows_iff {room : CRoom} {manager : CRoomManager CPlayer} {roomId : Int32}
    {proposal : Proposal} (consistent : manager.Consistent) (made : Made manager roomId proposal) :
    ShowsRoom room manager roomId ↔
      room.title = proposal.sentTitle ∧ room.maxPlayers = proposal.maxPlayers := by
  obtain ⟨ptr, early, terms⟩ := made
  obtain ⟨id, rest⟩ := Prod.mk.inj terms
  obtain ⟨title, maxPlayers⟩ := Prod.mk.inj rest
  constructor
  · intro shows
    exact ⟨(shows.title ptr early id).trans title, (shows.maxPlayers ptr early id).trans maxPlayers⟩
  · rintro ⟨shown, limit⟩
    have only (other : Nat) (soon : other < manager.allocated)
        (same : (manager.rooms other).roomId = roomId) : other = ptr :=
      consistent.same_ptr soon early (same.trans id.symm)
    constructor
    case made => exact ⟨ptr, early, id⟩
    case title =>
      intro other soon same
      rw [only other soon same, title, shown]
    case maxPlayers =>
      intro other soon same
      rw [only other soon same, maxPlayers, limit]

theorem receive_created (room : CRoom) (roomId : Int32) :
    receive room (ServerMessage.roomCreated roomId true).encode = room.onRoomCreated roomId := by
  rw [receive_encode room (.roomCreated roomId true) (by decide : sizeofRoomCreated < 2 ^ 16)]
  simp only [handlerOf, Handler.run, ServerMessage.encode, ServerMessage.body,
    messageSuccess_room, messageRoomId_encode, if_true]

theorem Tracked.shows_iff {sessionId : SessionId} {state : Creation}
    (tracked : state.Tracked sessionId) (action : DialogueAction) :
    state.Shows action ↔ state.NewestAgrees action := by
  refine forall₃_congr fun message processing succeeds => ?_
  cases action with
  | deliver =>
    simp only [processed] at processing
    split at processing
    · cases processing
    · next first =>
      split at processing
      · next created =>
        cases processing
        have queues := tracked.queues
        rw [first, List.map_cons] at queues
        rcases queues.processes with ⟨answered, later, split, confirms, _⟩ | ⟨unrelated, _⟩
        · obtain ⟨roomId, success, rfl, made⟩ := confirms
          have told : succeeded (ServerMessage.roomCreated roomId success).encode = success :=
            messageSuccess_room ..
          have named : messageRoomId (ServerMessage.roomCreated roomId success).encode = roomId :=
            messageRoomId_encode ..
          rw [told] at succeeds
          cases succeeds
          have last : state.unanswered.getLast? = some (later.getLast?.getD answered) := by
            rw [split, List.getLast?_cons]
          have pending := tracked.pending _ last
          rw [named, receive_created,
            Creation.shows_iff tracked.agreeing.rooted.consistent (made rfl), last, split]
          simp only [List.head?_cons, Option.mem_some_iff, forall_eq', CRoom.onRoomCreated,
            CRoom.initPlayers, pending.1, pending.2]
        · exact absurd created unrelated.not_created
      · cases processing
  | _ => cases processing

theorem allocated_le {sessionId : SessionId} {state next : Creation} {action : DialogueAction}
    (taken : state.step sessionId action = some next) :
    state.dialogue.server.roomManager.allocated ≤ next.dialogue.server.roomManager.allocated := by
  obtain ⟨dialogue, moved, rfl⟩ := Option.map_eq_some_iff.mp taken
  exact Dialogue.allocated_le moved

/-- In a run the client shows every room it has created if and only if, at each successful reply,
the newest call agrees with the answered one. -/
theorem created_shown_iff {sessionId : SessionId} {actions : List DialogueAction}
    {final : Creation} (run : execute (step sessionId) start actions = some final)
    (few : final.dialogue.server.roomManager.allocated < 2 ^ 31) :
    Allowed (step sessionId) Shows start actions ↔
      Allowed (step sessionId) NewestAgrees start actions := by
  let alive (state : Creation) : Prop := state.dialogue.server.roomManager.allocated < 2 ^ 31
  have before (state : Creation) (action : DialogueAction) (next : Creation)
      (taken : state.step sessionId action = some next) (living : alive next) : alive state :=
    Nat.lt_of_le_of_lt (allocated_le taken) living
  have preserved (state : Creation) (action : DialogueAction) (next : Creation)
      (tracked : state.Tracked sessionId) (living : alive next)
      (taken : state.step sessionId action = some next) : next.Tracked sessionId :=
    tracked.step taken living
  have same (state : Creation) (action : DialogueAction) (tracked : state.Tracked sessionId)
      (_ : alive state) : state.Shows action ↔ state.NewestAgrees action :=
    tracked.shows_iff action
  exact allowed_iff before preserved same (start_tracked sessionId) run few

theorem newestAgrees_alone {state : Creation} {answered : Proposal}
    (alone : state.unanswered = [answered]) (clean : 0 ∉ answered.title)
    (short : answered.title.length ≤ 63) (action : DialogueAction) :
    state.NewestAgrees action := by
  intro message _ _ first firstIs newest newestIs
  rw [alone] at firstIs newestIs
  cases firstIs
  cases newestIs
  have sent : answered.sentTitle = answered.title := by
    rw [Proposal.sentTitle, cString_clean clean, List.take_of_length_le short]
  exact ⟨sent.symm, rfl⟩

instance (state : Creation) (action : DialogueAction) : Decidable (state.NewestAgrees action) :=
  inferInstanceAs (Decidable (∀ message ∈ processed state.dialogue action,
    succeeded message = true → ∀ answered ∈ state.unanswered.head?,
      ∀ newest ∈ state.unanswered.getLast?,
        newest.title = answered.sentTitle ∧ newest.maxPlayers = answered.maxPlayers))

-- The second call has the title of the first, and is refused.
theorem created_shown_again : ∃ (actions : List DialogueAction) (final : Creation),
    execute (step 1) start actions = some final ∧ final.dialogue.room.title = [97] ∧
      Allowed (step 1) Shows start actions := by
  let stale : Stale := .zeros 256
  let create : DialogueAction := .requestCreateRoom (.zeros 64) [97] 2
  let actions : List DialogueAction :=
    [.connect stale, create, create, .serve stale, .serve stale, .deliver, .deliver]
  have ran : (execute (step 1) start actions).any (fun final =>
      final.dialogue.room.title = [97] ∧
        final.dialogue.server.roomManager.allocated < 2 ^ 31) = true := by decide +kernel
  obtain ⟨final, run, seen⟩ := (Option.any_eq_true _ _).mp ran
  obtain ⟨title, few⟩ := of_decide_eq_true seen
  have agrees : Allowed (step 1) NewestAgrees start actions := by decide +kernel
  exact ⟨actions, final, run, title, (created_shown_iff run few).mpr agrees⟩

-- The message that is delivered next tells of the first room, and the client shows another title.
def misled (state : Creation) : Bool :=
  (processed state.dialogue .deliver).any fun message =>
    let made := state.dialogue.server.roomManager.rooms 0
    succeeded message ∧ 0 < state.dialogue.server.roomManager.allocated ∧
      made.roomId = messageRoomId message ∧
        (receive state.dialogue.room message).title ≠ made.title

theorem not_shows_misled {sessionId : SessionId} {actions : List DialogueAction}
    (wrong : (execute (step sessionId) start actions).any misled = true) :
    ¬ Allowed (step sessionId) Shows start (actions ++ [.deliver]) := by
  intro every
  obtain ⟨state, run, seen⟩ := (Option.any_eq_true _ _).mp wrong
  obtain ⟨message, processing, told⟩ := (Option.any_eq_true _ _).mp seen
  obtain ⟨succeeds, early, same, differs⟩ := of_decide_eq_true told
  have shows := every.last run message processing succeeds
  exact differs (shows.title 0 early same)

-- Two calls before the first reply.
def pipelined : List DialogueAction :=
  [.connect (.zeros 256), .requestCreateRoom (.zeros 64) [97] 2,
    .requestCreateRoom (.zeros 64) [98] 3, .serve (.zeros 256), .deliver]

-- One call, with a title of 64 bytes.
def longTitled : List DialogueAction :=
  [.connect (.zeros 256), .requestCreateRoom (.zeros 64) (.replicate 64 97) 2,
    .serve (.zeros 256), .deliver]

theorem created_not_shown : ¬ Allowed (step 1) Shows start (pipelined ++ [.deliver]) ∧
    ¬ Allowed (step 1) Shows start (longTitled ++ [.deliver]) := by
  have first : (execute (step 1) start pipelined).any misled = true := by decide +kernel
  have second : (execute (step 1) start longTitled).any misled = true := by decide +kernel
  exact ⟨not_shows_misled first, not_shows_misled second⟩

end Creation

end MiniGames.Client
