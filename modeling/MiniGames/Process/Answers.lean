import MiniGames.Process.EndToEnd

set_option autoImplicit false

namespace MiniGames.Client

open Runs CCentralizedServer SessionState

inductive Reply : ClientMessage → List ServerMessage → Prop where
  | roomList (rooms : List RoomInfo) : Reply .requestRoomList [.roomList rooms]
  | created (title : CharArray 64) (maxPlayers roomId : Int32) :
      Reply (.createRoom title maxPlayers) [.roomCreated roomId true]
  | notCreated (title : CharArray 64) (maxPlayers roomId : Int32) (text : CharArray 256) :
      Reply (.createRoom title maxPlayers) [.roomCreated roomId false, .error text]
  | joined (roomId : Int32) : Reply (.joinRoom roomId) [.roomJoined roomId true]
  | notJoined (roomId : Int32) (text : CharArray 256) :
      Reply (.joinRoom roomId) [.roomJoined roomId false, .error text]
  | left (success : Bool) : Reply .leaveRoom [.roomLeft success]

/-- The requests that have been served, and all messages to the client. -/
inductive Script : List ClientMessage → List ServerMessage → Prop where
  | opened (rooms : List RoomInfo) : Script [] [.roomList rooms]
  | served {requests : List ClientMessage} {messages replies : List ServerMessage}
      {request : ClientMessage} (script : Script requests messages)
      (reply : Reply request replies) : Script (requests ++ [request]) (messages ++ replies)

theorem handleRequest_reply (stale : Stale) (server : CCentralizedServer) (player : CPlayer)
    (request : ClientMessage) : ∃ replies, Reply request replies ∧
      (handleRequest stale server player request.encode).2 =
        replies.map fun message => (player.sessionId, message) := by
  have routed := request.dispatched_encode
  cases request with
  | requestRoomList =>
    simp only [handleRequest, routed, ClientMessage.type]
    exact ⟨_, .roomList _, rfl⟩
  | createRoom title maxPlayers =>
    simp only [handleRequest, routed, ClientMessage.type]
    rcases handleCreateRoom_cases stale server player
        (ClientMessage.createRoom title maxPlayers).encode with
      ⟨_, _, handled⟩ | ⟨_, message, handled⟩
    · rw [handled]
      split
      · next success =>
        rw [success]
        exact ⟨_, .created title maxPlayers _, rfl⟩
      · next failure =>
        rw [Bool.not_eq_true] at failure
        rw [failure]
        exact ⟨_, .notCreated title maxPlayers _ _, rfl⟩
    · rw [handled]
      exact ⟨_, .notCreated title maxPlayers _ _, rfl⟩
  | joinRoom roomId =>
    simp only [handleRequest, routed, ClientMessage.type, handleJoinRoom,
      ClientMessage.requestedRoomId_encode]
    split
    · next success =>
      rw [success]
      exact ⟨_, .joined roomId, rfl⟩
    · next failure =>
      rw [Bool.not_eq_true] at failure
      rw [failure]
      exact ⟨_, .notJoined roomId _, rfl⟩
  | leaveRoom =>
    simp only [handleRequest, routed, ClientMessage.type]
    exact ⟨_, .left _, rfl⟩

namespace Conversation

theorem Holds.unique {pc : SendPc} {first second : List (List UInt8)} (holds : Holds pc first)
    (carries : Holds pc second) : first = second := by
  cases holds with
  | nothing quiet =>
    cases carries with
    | nothing => rfl
    | checks | enqueues => cases quiet
  | checks small | enqueues small =>
    cases carries with
    | nothing quiet => cases quiet
    | _ => rfl

variable {env : Environment} {Thread : Type} {gameThread : Thread} {sessionId : SessionId}

structure Answered (sessionId : SessionId) (gameThread : Thread)
    (conversation : Conversation Thread) (history : Dialogue) : Prop where
  simulates : Simulates sessionId gameThread
    { conversation with room := history.room, read := [] } history
  known : (conversation.game.getPlayer sessionId).isSome = history.connected
  script : ∃ requests messages,
    conversation.asked = requests.map ClientMessage.encode ++ history.requests ∧
    history.replies.map Prod.fst = messages.map ServerMessage.encode ∧
    if history.connected then Script requests messages else requests = [] ∧ messages = []

namespace Answered

variable {conversation : Conversation Thread} {history : Dialogue}
  (answered : Answered sessionId gameThread conversation history)

include answered

theorem popOther (rooted : conversation.game.Rooted) (settled : conversation.sending = [])
    {event : NetworkEvent} {rest : List NetworkEvent}
    (first : conversation.eventQueue = event :: rest) (other : event.sessionId ≠ sessionId)
    (stale : Stale)
    (small : ∀ sent ∈ (dispatch stale conversation.game event).2, sent.2.size < 2 ^ 32) :
    ∃ later, Answered sessionId gameThread { conversation with
      eventQueue := rest
      game := (dispatch stale conversation.game event).1
      sending := (dispatch stale conversation.game event).2 } later := by
  obtain ⟨served, packets, asked, split, events⟩ := answered.simulates.requests
  have turn := dispatch_turn stale conversation.game event
  have nothing := Dialogue.addressed_other other (dispatch_addressed stale rooted event)
  refine ⟨{ history with server := (dispatch stale conversation.game event).1 }, ?_, ?_, ?_⟩
  · refine answered.simulates.handled settled small rfl rfl ?_ ⟨served, packets, asked, split, ?_⟩
    · simp only [nothing, List.append_nil]
    · have foreign : own sessionId (event :: rest) = own sessionId rest := by simp [own, other]
      simp only [first, foreign] at events
      exact events
  · rw [turn.getPlayer_other other.symm]
    exact answered.known
  · exact answered.script

theorem popConnect (rooted : conversation.game.Rooted) (settled : conversation.sending = [])
    {rest : List NetworkEvent} {packets served : List (List UInt8)}
    (waiting : history.connected = false)
    (asked : conversation.asked = served ++ history.requests)
    (split : conversation.network.taken = served ++ packets ++ inHand conversation.network)
    (later : own sessionId rest = packets.map (packetEvent sessionId)) (stale : Stale)
    (small : ∀ sent ∈ (dispatch stale conversation.game ⟨.connected, sessionId, []⟩).2,
      sent.2.size < 2 ^ 32) :
    ∃ later, Answered sessionId gameThread { conversation with
      eventQueue := rest
      game := (dispatch stale conversation.game ⟨.connected, sessionId, []⟩).1
      sending := (dispatch stale conversation.game ⟨.connected, sessionId, []⟩).2 } later := by
  obtain ⟨requests, messages, parts, sent, spoken⟩ := answered.script
  rw [waiting] at spoken
  obtain ⟨rfl, rfl⟩ := spoken
  have own := dispatch_addressed stale rooted ⟨.connected, sessionId, []⟩
  have message := Dialogue.addressed_own own
  refine ⟨{ history with
    server := (dispatch stale conversation.game ⟨.connected, sessionId, []⟩).1
    connected := true
    replies := history.replies ++ Dialogue.untagged (Dialogue.addressed sessionId
      (dispatch stale conversation.game ⟨.connected, sessionId, []⟩).2) }, ?_, ?_, ?_⟩
  · refine answered.simulates.handled settled small rfl rfl ?_ ⟨served, packets, asked, split, ?_⟩
    · rw [List.map_append, Dialogue.untagged_messages]
    · exact later
  · have known := connected_getPlayer conversation.game sessionId sessionId
    rw [if_pos rfl] at known
    exact congrArg Option.isSome known
  · refine ⟨[], [.roomList (conversation.game.roomManager.listed.map roomInfo)], parts, ?_,
      .opened _⟩
    rw [List.map_append, sent, Dialogue.untagged_messages, message]
    rfl

theorem popServe (rooted : conversation.game.Rooted) (settled : conversation.sending = [])
    (wellFormed : ∀ request ∈ conversation.asked, ∃ message : ClientMessage,
      request = message.encode)
    {rest : List NetworkEvent} {packet : List UInt8} {packets served more : List (List UInt8)}
    (online : history.connected = true) (waiting : history.requests = packet :: more)
    (asked : conversation.asked = served ++ history.requests)
    (split : conversation.network.taken =
      served ++ packet :: packets ++ inHand conversation.network)
    (later : own sessionId rest = packets.map (packetEvent sessionId)) (stale : Stale)
    (small : ∀ sent ∈ (dispatch stale conversation.game (packetEvent sessionId packet)).2,
      sent.2.size < 2 ^ 32) :
    ∃ later, Answered sessionId gameThread { conversation with
      eventQueue := rest
      game := (dispatch stale conversation.game (packetEvent sessionId packet)).1
      sending := (dispatch stale conversation.game (packetEvent sessionId packet)).2 } later := by
  obtain ⟨requests, messages, parts, sent, spoken⟩ := answered.script
  have known := answered.known
  rw [online] at known spoken
  obtain ⟨player, known⟩ := Option.isSome_iff_exists.mp known
  have named := rooted.ownId _ _ known
  obtain ⟨request, rfl⟩ := wellFormed packet (by simp [asked, waiting])
  obtain ⟨replies, reply, handled⟩ :=
    handleRequest_reply stale conversation.game player request
  have popped : dispatch stale conversation.game (packetEvent sessionId request.encode) =
      handleRequest stale conversation.game player request.encode :=
    dispatch_request stale rfl known
  have turn := dispatch_turn stale conversation.game (packetEvent sessionId request.encode)
  have message : Dialogue.addressed sessionId
      (dispatch stale conversation.game (packetEvent sessionId request.encode)).2 =
        replies.map ServerMessage.encode := by
    rw [popped, handled, named, Dialogue.addressed_own (by simp), List.map_map]
    rfl
  refine ⟨{ history with
    server := (dispatch stale conversation.game (packetEvent sessionId request.encode)).1
    requests := more
    replies := history.replies ++ Dialogue.untagged (Dialogue.addressed sessionId
      (dispatch stale conversation.game (packetEvent sessionId request.encode)).2) }, ?_, ?_, ?_⟩
  · refine answered.simulates.handled settled small rfl rfl ?_
      ⟨served ++ [request.encode], packets, ?_, ?_, ?_⟩
    · rw [List.map_append, Dialogue.untagged_messages]
    · simp [asked, waiting]
    · simp [split]
    · simp only [online]
      exact later
  · rw [turn.getPlayer_received rfl, known, online]
    rfl
  · simp only [online, if_true]
    refine ⟨requests ++ [request], messages ++ replies, ?_, ?_, spoken.served reply⟩
    · simp [parts, waiting]
    · rw [List.map_append, sent, Dialogue.untagged_messages, message, List.map_append]

theorem pop (rooted : conversation.game.Rooted) (settled : conversation.sending = [])
    (wellFormed : ∀ request ∈ conversation.asked, ∃ message : ClientMessage,
      request = message.encode)
    (taken : conversation.network.taken <+: conversation.asked) {event : NetworkEvent}
    {rest : List NetworkEvent} (first : conversation.eventQueue = event :: rest) (stale : Stale)
    (small : ∀ sent ∈ (dispatch stale conversation.game event).2, sent.2.size < 2 ^ 32) :
    ∃ later, Answered sessionId gameThread { conversation with
      eventQueue := rest
      game := (dispatch stale conversation.game event).1
      sending := (dispatch stale conversation.game event).2 } later := by
  by_cases other : event.sessionId ≠ sessionId
  · exact answered.popOther rooted settled first other stale small
  · obtain ⟨served, packets, asked, split, events⟩ := answered.simulates.requests
    have ours : event.sessionId = sessionId := of_not_not other
    have head : own sessionId (event :: rest) = event :: own sessionId rest := by simp [own, ours]
    simp only [first, head] at asked split events
    cases connected : history.connected with
    | false =>
      rw [connected] at events
      obtain ⟨rfl, later⟩ := List.cons.inj events
      exact answered.popConnect rooted settled connected asked split later stale small
    | true =>
      rw [connected] at events
      cases packets with
      | nil => cases events
      | cons packet packets =>
        obtain ⟨rfl, later⟩ := List.cons.inj events
        obtain ⟨more, waiting⟩ : ∃ more, history.requests = packet :: more := by
          rw [split, asked, List.append_assoc, List.prefix_append_right_inj] at taken
          obtain ⟨more, same⟩ := taken
          exact ⟨_, same.symm⟩
        exact answered.popServe rooted settled wellFormed connected waiting asked split later stale
          small

theorem proceeds [DecidableEq Thread] {next : Conversation Thread}
    (mode : env.architectureType = .centralized) (layout : env.header.sizeofMsgHeader ≤ 4)
    (wired : Wired sessionId conversation) (sending : Sending conversation.network)
    (receiving : Receiving env conversation.network) (rooted : conversation.game.Rooted)
    {action : ConversationAction Thread}
    (proceeds : Proceeds env sessionId gameThread conversation action next) (alive : Alive next) :
    ∃ later, Answered sessionId gameThread next later := by
  have before := Alive.before proceeds alive
  cases proceeds with
  | network action network permitted taken =>
    exact ⟨history, answered.simulates.network mode wired.named sending (before.valid gameThread)
      permitted taken alive.stays, answered.known, answered.script⟩
  | event event other =>
    exact ⟨history, answered.simulates.event other, answered.known, answered.script⟩
  | disconnected invalid =>
    rw [before.valid gameThread] at invalid
    cases invalid
  | pop stale event rest settled first =>
    have small := dispatch_small stale rooted.consistent before.few event
    exact answered.pop rooted settled wired.asked (wired.taken receiving mode layout) first stale
      small
  | send message rest first network free taken =>
    obtain ⟨_, _, called⟩ := Option.bind_eq_some_iff.mp taken
    cases called
    exact ⟨history, answered.simulates.send first free, answered.known, answered.script⟩
  | skip recipient message rest first other =>
    exact ⟨history, answered.simulates.skip first other, answered.known, answered.script⟩
  | ask _ _ request asks =>
    obtain ⟨requests, messages, parts, sent, spoken⟩ := answered.script
    refine ⟨history.ask request, answered.simulates.ask request, answered.known, requests, messages,
      ?_, sent, spoken⟩
    simp only [Conversation.ask, Dialogue.ask, parts, List.append_assoc]
  | recv => exact ⟨history, answered.simulates, answered.known, answered.script⟩

end Answered

section Runs

variable [DecidableEq Thread] {recvMemory sendMemory : Option (Nat → UInt8)} {socket : Socket}
  {acceptThread : Thread} {earlier : List NetworkEvent} {conversation : Conversation Thread}

theorem reachable_answered (mode : env.architectureType = .centralized)
    (layout : env.header.sizeofMsgHeader ≤ 4)
    (others : ∀ event ∈ earlier, event.sessionId ≠ sessionId)
    (reached : Reachable (step env sessionId gameThread) WholeMessages
      (start (.start recvMemory sendMemory sessionId socket acceptThread) sessionId earlier)
      conversation) (alive : Alive conversation) :
    ∃ history, Answered sessionId gameThread conversation history := by
  induction reached with
  | start => exact ⟨.start, start_simulates others, rfl, [], [], rfl, rfl, rfl, rfl⟩
  | step reached _ taken ih =>
    have before := Alive.before (step_proceeds taken) alive
    obtain ⟨history, answered⟩ := ih before
    have network := reachable_network reached
    obtain ⟨dialogue, spoken, simulates⟩ := reachable_simulates mode layout others reached before
    have few : dialogue.server.roomManager.allocated < 2 ^ 31 := by
      rw [simulates.server]
      exact Nat.lt_trans before.few (by decide)
    have rooted := (Dialogue.reachable_agreeing spoken few).rooted
    exact answered.proceeds mode layout (reachable_wired reached)
      (reachable_sending network (before.valid gameThread)) (reachable_receiving network)
      (simulates.server ▸ rooted) (step_proceeds taken) alive

/-- What the client has read are the list of the rooms and the replies to its first requests, in
their order and nothing else; those requests are among the packets that ParsePackets has taken off,
and these among what the client has asked. -/
theorem answers_in_order (mode : env.architectureType = .centralized)
    (layout : env.header.sizeofMsgHeader ≤ 4)
    (others : ∀ event ∈ earlier, event.sessionId ≠ sessionId)
    (reached : Reachable (step env sessionId gameThread) WholeMessages
      (start (.start recvMemory sendMemory sessionId socket acceptThread) sessionId earlier)
      conversation) (alive : Alive conversation) :
    conversation.read = [] ∨ ∃ requests messages, Script requests messages ∧
      conversation.read <+: messages.map ServerMessage.encode ∧
      requests.map ClientMessage.encode <+: conversation.network.taken ∧
      conversation.network.taken <+: conversation.asked := by
  obtain ⟨history, answered⟩ := reachable_answered mode layout others reached alive
  obtain ⟨dialogue, _, simulates⟩ := reachable_simulates mode layout others reached alive
  obtain ⟨requests, messages, parts, sent, spoken⟩ := answered.script
  obtain ⟨hand, holds, waiting⟩ := simulates.replies
  obtain ⟨carried, carries, all⟩ := answered.simulates.replies
  have read : conversation.read <+: messages.map ServerMessage.encode := by
    simp only [carries.unique holds, List.nil_append, sent] at all
    exact ⟨_, waiting.symm.trans all⟩
  cases connected : history.connected with
  | false =>
    rw [connected] at spoken
    rw [spoken.2] at read
    exact .inl (List.prefix_nil.mp read)
  | true =>
    rw [connected] at spoken
    refine .inr ⟨requests, messages, spoken, read, ?_, ?_⟩
    · obtain ⟨served, packets, asked, split, _⟩ := answered.simulates.requests
      simp only [parts, List.append_cancel_right_eq] at asked split
      rw [split, ← asked, List.append_assoc]
      exact List.prefix_append _ _
    · exact (reachable_wired reached).taken (reachable_receiving (reachable_network reached)) mode
        layout

-- The client has read the list of the rooms and that there was no room for it to leave.
theorem answers_in_order_refused : ∃ (conversation : Conversation (Fin 3)) (requests : _)
    (messages : List ServerMessage), Script requests messages ∧
      conversation.read <+: messages.map ServerMessage.encode ∧
      requests.map ClientMessage.encode <+: conversation.asked ∧
      conversation.read.map headerType = [some .s2cRoomList, some .s2cRoomLeft] := by
  let stale : Stale := .zeros 256
  let request := CRoom.new.requestLeaveRoom.2.encode
  let schedule : List (List (ConversationAction (Fin 3))) :=
    [sendLists, [.recv 8, .requestLeaveRoom, .network (.receive request), .network (.worker 1)],
      List.replicate 6 (.network (.statement true)), [.popNetworkEvent stale, .requestSendMsg],
      List.replicate 6 (.network (.run 2 true 0)), [.network (.sent 1 0 5)],
      List.replicate 6 (.network (.run 1 true 0)), [.recv 5]]
  obtain ⟨conversation, reached, seen⟩ := Reachable.observe
    (restrict (step Server.oneSlot 1 (2 : Fin 3)) WholeMessages) twoClients schedule.flatten
    (fun conversation => conversation.network.session.valid = true ∧
      (∀ thread, conversation.network.send.threads thread = .idle) ∧
      conversation.game.roomManager.allocated < 2 ^ 25 ∧
      conversation.read.map headerType = [some .s2cRoomList, some .s2cRoomLeft])
    (by decide +kernel)
  obtain ⟨valid, idle, few, types⟩ := of_decide_eq_true seen
  rcases answers_in_order rfl (by decide) (by decide) reached.unrestrict
      (alive_of_idle valid idle few) with
    nothing | ⟨requests, messages, script, read, taken, asked⟩
  · rw [nothing] at types
    cases types
  · exact ⟨conversation, requests, messages, script, read, taken.trans asked, types⟩

end Runs

end Conversation

end MiniGames.Client
