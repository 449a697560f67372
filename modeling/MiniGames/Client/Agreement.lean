import MiniGames.Client.Views
import MiniGames.Shared.Runs

set_option autoImplicit false

namespace MiniGames.Client

open Runs CCentralizedServer

-- A message on its way to the client. The last one of the replies to a request carries, not in the
-- source, where the server had the player after that request.
abbrev InFlight := List UInt8 × Option View

-- The two channels keep the order and lose nothing; the other clients do what they like.
structure Dialogue where
  server : CCentralizedServer
  connected : Bool
  room : CRoom
  requests : List (List UInt8)
  replies : List InFlight
  -- Not in the source: the player's place as of the last request with all replies processed.
  acknowledged : View

inductive DialogueAction where
  -- An event of another session.
  | other (event : NetworkEvent) (stale : Stale)
  | connect (stale : Stale)
  | requestRoomList
  | requestCreateRoom (stale : StaleTitle) (title : List UInt8) (maxPlayers : Int32)
  | requestJoinRoom (roomId : Int32)
  | requestLeaveRoom
  -- The game thread handles the first request, and the client the first message.
  | serve (stale : Stale)
  | deliver

namespace Dialogue

def start : Dialogue :=
  { server := .new
    connected := false
    room := .new
    requests := []
    replies := []
    acknowledged := (false, -1) }

def addressed (sessionId : SessionId) (sent : List Sent) : List (List UInt8) :=
  (sent.filter fun reply => reply.1 = sessionId).map fun reply => reply.2.encode

def untagged (messages : List (List UInt8)) : List InFlight :=
  messages.map fun message => (message, none)

def tagLast (view : View) : List (List UInt8) → List InFlight
  | [] => []
  | [message] => [(message, some view)]
  | message :: rest => (message, none) :: tagLast view rest

def ask (dialogue : Dialogue) (request : CRoom × ClientMessage) : Dialogue :=
  { dialogue with
    room := request.1
    requests := dialogue.requests ++ [request.2.encode] }

def step (sessionId : SessionId) (dialogue : Dialogue) : DialogueAction → Option Dialogue
  | .other event stale =>
      if event.sessionId = sessionId then none
      else
        let handled := dispatch stale dialogue.server event
        some { dialogue with
          server := handled.1
          replies := dialogue.replies ++ untagged (addressed sessionId handled.2) }
  | .connect stale =>
      if dialogue.connected then none
      else
        let handled := dispatch stale dialogue.server ⟨.connected, sessionId, []⟩
        some { dialogue with
          server := handled.1
          connected := true
          replies := dialogue.replies ++ untagged (addressed sessionId handled.2) }
  | .requestRoomList => some (dialogue.ask dialogue.room.requestRoomList)
  | .requestCreateRoom stale title maxPlayers =>
      some (dialogue.ask (dialogue.room.requestCreateRoom stale title maxPlayers))
  | .requestJoinRoom roomId => some (dialogue.ask (dialogue.room.requestJoinRoom roomId))
  | .requestLeaveRoom => some (dialogue.ask dialogue.room.requestLeaveRoom)
  | .serve stale =>
      match dialogue.connected, dialogue.requests with
      | true, request :: rest =>
          let handled := dispatch stale dialogue.server ⟨.received, sessionId, request⟩
          some { dialogue with
            server := handled.1
            requests := rest
            replies := dialogue.replies ++
              tagLast (serverView handled.1 sessionId) (addressed sessionId handled.2) }
      | _, _ => none
  | .deliver =>
      match dialogue.replies with
      | [] => none
      | (message, tag) :: rest =>
          some { dialogue with
            room := receive dialogue.room message
            replies := rest
            acknowledged := tag.getD dialogue.acknowledged }

-- The messages in flight change the view from the first to the second, at tagged messages only.
def Leads : View → List InFlight → View → Prop
  | first, [], last => first = last
  | first, (message, tag) :: rest, last =>
      ∃ next, (∀ room : CRoom, room.view = first → (receive room message).view = next) ∧
        next = tag.getD first ∧ Leads next rest last

theorem Leads.append {first middle last : View} {messages more : List InFlight}
    (leads : Leads first messages middle) (further : Leads middle more last) :
    Leads first (messages ++ more) last := by
  induction messages generalizing first with
  | nil => exact leads ▸ further
  | cons message rest ih =>
    obtain ⟨next, received, tagged, later⟩ := leads
    exact ⟨next, received, tagged, ih later⟩

theorem leads_message {first next last : View} {message : ServerMessage} {tag : Option View}
    {rest : List InFlight} (shown : told first message = next) (tagged : next = tag.getD first)
    (later : Leads next rest last) : Leads first ((message.encode, tag) :: rest) last := by
  refine ⟨next, ?_, tagged, later⟩
  intro room same
  rw [receive_view, same, shown]

theorem untagged_messages (messages : List (List UInt8)) :
    (untagged messages).map Prod.fst = messages := by
  rw [untagged, List.map_map]
  exact List.map_id _

theorem tagLast_messages (view : View) (messages : List (List UInt8)) :
    (tagLast view messages).map Prod.fst = messages := by
  fun_induction tagLast view messages with
  | case1 => rfl
  | case2 message => rfl
  | case3 message rest more ih => rw [List.map_cons, ih]

theorem addressed_own {sessionId : SessionId} {sent : List Sent}
    (own : ∀ reply ∈ sent, reply.1 = sessionId) :
    addressed sessionId sent = sent.map fun reply => reply.2.encode := by
  rw [addressed, List.filter_eq_self.mpr]
  simpa using own

theorem addressed_other {sessionId other : SessionId} (differs : other ≠ sessionId)
    {sent : List Sent} (own : ∀ reply ∈ sent, reply.1 = other) : addressed sessionId sent = [] := by
  rw [addressed, List.filter_eq_nil_iff.mpr, List.map_nil]
  intro reply member
  rw [own reply member]
  simpa using differs

theorem leads_answers {sessionId : SessionId} {before after : View} {replies : List Sent}
    (answers : Answers sessionId before after replies) :
    Leads before (tagLast after (addressed sessionId replies)) after := by
  rw [addressed_own answers.addressed]
  cases answers with
  | silent same => exact same.symm
  | single message shown => exact leads_message shown rfl rfl
  | refused message text shown same =>
    subst same
    exact leads_message shown rfl (leads_message rfl rfl rfl)

structure Agreeing (sessionId : SessionId) (dialogue : Dialogue) : Prop where
  rooted : dialogue.server.Rooted
  known : (dialogue.server.getPlayer sessionId).isSome = dialogue.connected
  acknowledged : dialogue.room.view = dialogue.acknowledged
  leads : Leads dialogue.room.view dialogue.replies (serverView dialogue.server sessionId)

theorem start_agreeing (sessionId : SessionId) : start.Agreeing sessionId :=
  ⟨new_rooted, rfl, rfl, rfl⟩

namespace Agreeing

variable {sessionId : SessionId} {dialogue : Dialogue} (agreeing : dialogue.Agreeing sessionId)

include agreeing

theorem ask (request : CRoom × ClientMessage) (same : request.1.view = dialogue.room.view) :
    (dialogue.ask request).Agreeing sessionId := by
  constructor
  case rooted => exact agreeing.rooted
  case known => exact agreeing.known
  case acknowledged => exact same.trans agreeing.acknowledged
  case leads =>
    simp only [Dialogue.ask, same]
    exact agreeing.leads

theorem deliver {message : List UInt8} {tag : Option View} {rest : List InFlight}
    (first : dialogue.replies = (message, tag) :: rest) :
    Agreeing sessionId { dialogue with
      room := receive dialogue.room message
      replies := rest
      acknowledged := tag.getD dialogue.acknowledged } := by
  have leads := agreeing.leads
  rw [first] at leads
  obtain ⟨next, received, tagged, later⟩ := leads
  have view := received dialogue.room rfl
  constructor
  case rooted => exact agreeing.rooted
  case known => exact agreeing.known
  case acknowledged => rw [view, tagged, agreeing.acknowledged]
  case leads =>
    simp only [view]
    exact later

theorem other {event : NetworkEvent} (differs : event.sessionId ≠ sessionId) (stale : Stale)
    (few : (dispatch stale dialogue.server event).1.roomManager.allocated < 2 ^ 31) :
    Agreeing sessionId { dialogue with
      server := (dispatch stale dialogue.server event).1
      replies := dialogue.replies ++
        untagged (addressed sessionId (dispatch stale dialogue.server event).2) } := by
  have turn := dispatch_turn stale dialogue.server event
  constructor
  case rooted => exact agreeing.rooted.turn turn few
  case known => rw [turn.getPlayer_other differs.symm, agreeing.known]
  case acknowledged => exact agreeing.acknowledged
  case leads =>
    rw [addressed_other differs (dispatch_addressed stale agreeing.rooted event), untagged,
      List.map_nil, List.append_nil, serverView_other agreeing.rooted turn few differs.symm]
    exact agreeing.leads

theorem connect (waiting : dialogue.connected = false) (stale : Stale)
    (few : (dispatch stale dialogue.server
      ⟨.connected, sessionId, []⟩).1.roomManager.allocated < 2 ^ 31) :
    Agreeing sessionId { dialogue with
      server := (dispatch stale dialogue.server ⟨.connected, sessionId, []⟩).1
      connected := true
      replies := dialogue.replies ++ untagged (addressed sessionId
        (dispatch stale dialogue.server ⟨.connected, sessionId, []⟩).2) } := by
  have turn := dispatch_turn stale dialogue.server ⟨.connected, sessionId, []⟩
  have unknown : dialogue.server.getPlayer sessionId = none := by
    have known := agreeing.known
    rw [waiting] at known
    exact Option.not_isSome_iff_eq_none.mp (by simp [known])
  constructor
  case rooted => exact agreeing.rooted.turn turn few
  case known =>
    have known := connected_getPlayer dialogue.server sessionId sessionId
    rw [if_pos rfl] at known
    exact congrArg Option.isSome known
  case acknowledged => exact agreeing.acknowledged
  case leads =>
    have own := dispatch_addressed stale agreeing.rooted ⟨.connected, sessionId, []⟩
    rw [addressed_own own]
    have before := serverView_unknown unknown
    have after := serverView_connected agreeing.rooted sessionId
    apply agreeing.leads.append
    rw [before]
    exact leads_message rfl rfl after.symm

theorem serve {request : List UInt8} {rest : List (List UInt8)}
    (connected : dialogue.connected = true) (stale : Stale)
    (few : (dispatch stale dialogue.server
      ⟨.received, sessionId, request⟩).1.roomManager.allocated < 2 ^ 31) :
    Agreeing sessionId { dialogue with
      server := (dispatch stale dialogue.server ⟨.received, sessionId, request⟩).1
      requests := rest
      replies := dialogue.replies ++ tagLast
        (serverView (dispatch stale dialogue.server ⟨.received, sessionId, request⟩).1 sessionId)
        (addressed sessionId (dispatch stale dialogue.server ⟨.received, sessionId, request⟩).2) } := by
  have turn := dispatch_turn stale dialogue.server ⟨.received, sessionId, request⟩
  have rooted := agreeing.rooted.turn turn few
  have known := agreeing.known
  rw [connected] at known
  obtain ⟨player, known⟩ := Option.isSome_iff_exists.mp known
  have named := agreeing.rooted.ownId _ _ known
  have handled : dispatch stale dialogue.server ⟨.received, sessionId, request⟩ =
      handleRequest stale dialogue.server player request := dispatch_request stale rfl known
  have answers := handleRequest_answers stale agreeing.rooted.consistent player request
  have still : (dispatch stale dialogue.server
      ⟨.received, sessionId, request⟩).1.getPlayer sessionId = some player :=
    (turn.getPlayer_received rfl sessionId).trans known
  rw [handled] at rooted still ⊢
  constructor
  case rooted => exact rooted
  case known => rw [still, connected]; rfl
  case acknowledged => exact agreeing.acknowledged
  case leads =>
    apply agreeing.leads.append
    rw [serverView_known agreeing.rooted.consistent known, serverView_known rooted.consistent still]
    rw [named] at answers
    exact leads_answers answers

theorem step {action : DialogueAction} {next : Dialogue}
    (taken : dialogue.step sessionId action = some next)
    (few : next.server.roomManager.allocated < 2 ^ 31) : next.Agreeing sessionId := by
  cases action with
  | other event stale =>
    simp only [Dialogue.step] at taken
    split at taken
    · cases taken
    · next differs =>
      cases taken
      exact agreeing.other differs stale few
  | connect stale =>
    simp only [Dialogue.step] at taken
    split at taken
    · cases taken
    · next waiting =>
      cases taken
      exact agreeing.connect (by simpa using waiting) stale few
  | requestRoomList | requestCreateRoom | requestJoinRoom | requestLeaveRoom =>
    cases taken
    exact agreeing.ask _ rfl
  | serve stale =>
    simp only [Dialogue.step] at taken
    split at taken
    · next connected _ =>
      cases taken
      exact agreeing.serve connected stale few
    · cases taken
  | deliver =>
    simp only [Dialogue.step] at taken
    split at taken
    · cases taken
    · next first =>
      cases taken
      exact agreeing.deliver first

end Agreeing

theorem allocated_le {sessionId : SessionId} {dialogue next : Dialogue} {action : DialogueAction}
    (taken : dialogue.step sessionId action = some next) :
    dialogue.server.roomManager.allocated ≤ next.server.roomManager.allocated := by
  cases action with
  | other event stale =>
    simp only [step] at taken
    split at taken
    · cases taken
    · cases taken
      exact (dispatch_turn stale dialogue.server event).allocated_le
  | connect stale =>
    simp only [step] at taken
    split at taken
    · cases taken
    · cases taken
      exact (dispatch_turn stale dialogue.server _).allocated_le
  | requestRoomList | requestCreateRoom | requestJoinRoom | requestLeaveRoom =>
    cases taken
    exact Nat.le_refl _
  | serve stale =>
    simp only [step] at taken
    split at taken
    · cases taken
      exact (dispatch_turn stale dialogue.server _).allocated_le
    · cases taken
  | deliver =>
    simp only [step] at taken
    split at taken
    · cases taken
    · cases taken
      exact Nat.le_refl _

theorem reachable_agreeing {sessionId : SessionId} {dialogue : Dialogue}
    (reached : Reachable (step sessionId) Always start dialogue)
    (few : dialogue.server.roomManager.allocated < 2 ^ 31) : dialogue.Agreeing sessionId := by
  induction reached with
  | start => exact start_agreeing sessionId
  | step _ _ taken ih =>
    exact (ih (Nat.lt_of_le_of_lt (allocated_le taken) few)).step taken few

/-- The client's view is the server's as of the last answered request, and with no message in
flight to the client it is the server's. -/
theorem membership_agrees {sessionId : SessionId} {dialogue : Dialogue}
    (reached : Reachable (step sessionId) Always start dialogue)
    (few : dialogue.server.roomManager.allocated < 2 ^ 31) :
    dialogue.room.view = dialogue.acknowledged ∧
      (dialogue.replies = [] → dialogue.room.view = serverView dialogue.server sessionId) := by
  have agreeing := reachable_agreeing reached few
  apply And.intro agreeing.acknowledged
  intro none
  have leads := agreeing.leads
  rw [none] at leads
  exact leads

-- Another client has left room 1 to the client, whose second room is refused meanwhile.
theorem membership_agrees_pipelined : ∃ dialogue : Dialogue,
    dialogue.room.view = dialogue.acknowledged ∧
      (dialogue.replies = [] → dialogue.room.view = serverView dialogue.server 1) ∧
      dialogue.replies = [] ∧ dialogue.room.view = (true, 1) := by
  let leave := ClientMessage.leaveRoom.encode
  let create := ClientMessage.encode (.createRoom ((CharArray.zeros 64).strncpy [97]) 2)
  let stale : Stale := .zeros 256
  obtain ⟨dialogue, reached, seen⟩ := Reachable.observe (step 1) start
    [.other ⟨.connected, 2, []⟩ stale, .connect stale, .other ⟨.received, 2, create⟩ stale,
      .requestJoinRoom 1, .requestCreateRoom (.zeros 64) [98] 2, .serve stale,
      .other ⟨.received, 2, leave⟩ stale, .serve stale, .deliver, .deliver, .deliver, .deliver]
    (fun dialogue => dialogue.replies = [] ∧ dialogue.room.view = (true, 1) ∧
      dialogue.server.roomManager.allocated < 2 ^ 31) (by decide +kernel)
  obtain ⟨none, view, few⟩ := of_decide_eq_true seen
  have agrees := membership_agrees reached few
  exact ⟨dialogue, agrees.1, agrees.2, none, view⟩

end Dialogue

end MiniGames.Client
