import MiniGames.Client.Agreement
import MiniGames.Network.SessionSends

set_option autoImplicit false

namespace MiniGames.Client

open Circular Framing Runs CCentralizedServer SessionState

structure Conversation (Thread : Type) where
  network : SessionState Thread
  eventQueue : List NetworkEvent
  game : CCentralizedServer
  -- The calls of RequestSendMsg that the game thread has yet to make for the event it handles.
  sending : List Sent
  room : CRoom
  -- Not in the source: what the client has passed to SendPacket and what `recv` has returned to it.
  asked : List (List UInt8)
  read : List (List UInt8)

inductive ConversationAction (Thread : Type) where
  | network (action : SessionAction Thread)
  -- A network thread pushes an event of another session, or DISCONNECTED for this one.
  | event (event : NetworkEvent)
  | disconnected
  | popNetworkEvent (stale : Stale)
  | requestSendMsg
  | requestRoomList
  | requestCreateRoom (stale : StaleTitle) (title : List UInt8) (maxPlayers : Int32)
  | requestJoinRoom (roomId : Int32)
  | requestLeaveRoom
  -- A turn of RecvThread.
  | recv (length : Nat)

namespace Conversation

variable {Thread : Type}

/-- ProcessAccept has pushed CONNECTED, behind events of other sessions. -/
def start (network : SessionState Thread) (sessionId : SessionId) (earlier : List NetworkEvent) :
    Conversation Thread :=
  { network := network
    eventQueue := earlier ++ [⟨.connected, sessionId, []⟩]
    game := .new
    sending := []
    room := .new
    asked := []
    read := [] }

-- The packet that ParsePackets is about to hand on.
def inHand (network : SessionState Thread) : List (List UInt8) :=
  match network.receive with
  | .handled _ (.deliver bytes) => [bytes]
  | _ => []

def handedOn (network : SessionState Thread) : SessionAction Thread → List (List UInt8)
  | .statement _ => inHand network
  | _ => []

def packetEvent (sessionId : SessionId) (bytes : List UInt8) : NetworkEvent :=
  ⟨.received, sessionId, bytes⟩

-- The stream behind what `recv` has returned.
def unread (conversation : Conversation Thread) : List UInt8 :=
  conversation.network.send.transmitted.drop conversation.read.flatten.length

def ask (conversation : Conversation Thread) (request : CRoom × ClientMessage) :
    Conversation Thread :=
  { conversation with
    room := request.1
    asked := conversation.asked ++ [request.2.encode] }

variable [DecidableEq Thread]

/-- Only the game thread calls RequestSendMsg, and it handles no completions; Winsock receives what
the client has sent. -/
def permits (conversation : Conversation Thread) (gameThread : Thread) :
    SessionAction Thread → Bool
  | .call _ _ => false
  | .sent thread _ _ | .worker thread => thread ≠ gameThread
  | .receive bytes =>
      (conversation.network.received ++ bytes).isPrefixOf conversation.asked.flatten
  | _ => true

def step (env : Environment) (sessionId : SessionId) (gameThread : Thread)
    (conversation : Conversation Thread) :
    ConversationAction Thread → Option (Conversation Thread)
  | .network action => do
      guard (conversation.permits gameThread action = true)
      let network ← conversation.network.step env action
      pure { conversation with
        network := network
        -- PushNetworkEvent in ParsePackets
        eventQueue := conversation.eventQueue ++ (handedOn conversation.network action).map
          (packetEvent conversation.network.session.sessionId) }
  | .event event => do
      guard (event.sessionId ≠ sessionId)
      pure { conversation with eventQueue := conversation.eventQueue ++ [event] }
  | .disconnected => do
      guard (conversation.network.session.valid = false)
      pure { conversation with
        eventQueue := conversation.eventQueue ++ [⟨.disconnected, sessionId, []⟩] }
  | .popNetworkEvent stale =>
      match conversation.sending, conversation.eventQueue with
      | [], event :: rest => do
          guard (conversation.network.free gameThread = true)
          let handled := dispatch stale conversation.game event
          pure { conversation with
            eventQueue := rest
            game := handled.1
            sending := handled.2 }
      | _, _ => none
  | .requestSendMsg =>
      match conversation.sending with
      | (recipient, message) :: rest => do
          guard (conversation.network.free gameThread = true)
          if recipient = sessionId then
            let network ← conversation.network.step env (.call gameThread (.ofBytes message.encode))
            pure { conversation with
              network := network
              sending := rest }
          else pure { conversation with sending := rest }
      | [] => none
  | .requestRoomList => some (conversation.ask conversation.room.requestRoomList)
  | .requestCreateRoom stale title maxPlayers =>
      some (conversation.ask (conversation.room.requestCreateRoom stale title maxPlayers))
  | .requestJoinRoom roomId => some (conversation.ask (conversation.room.requestJoinRoom roomId))
  | .requestLeaveRoom => some (conversation.ask conversation.room.requestLeaveRoom)
  | .recv length => do
      guard (0 < length ∧ length ≤ 4096 ∧ length ≤ conversation.unread.length)
      let chunk := conversation.unread.take length
      pure { conversation with
        room := receive conversation.room chunk
        read := conversation.read ++ [chunk] }

-- `recv` returns one message, no less and no more: HandleServerMessage looks at one only.
def WholeMessages (conversation : Conversation Thread) : ConversationAction Thread → Prop
  | .recv length => sizeofMsgHeader ≤ length ∧ headerSize conversation.unread = length
  | _ => True

instance (conversation : Conversation Thread) (action : ConversationAction Thread) :
    Decidable (conversation.WholeMessages action) :=
  match action with
  | .recv length => inferInstanceAs
      (Decidable (sizeofMsgHeader ≤ length ∧ headerSize conversation.unread = length))
  | .network _ | .event _ | .disconnected | .popNetworkEvent _ | .requestSendMsg
  | .requestRoomList | .requestCreateRoom _ _ _ | .requestJoinRoom _ | .requestLeaveRoom =>
      inferInstanceAs (Decidable True)

inductive Proceeds (env : Environment) (sessionId : SessionId) (gameThread : Thread)
    (conversation : Conversation Thread) :
    ConversationAction Thread → Conversation Thread → Prop where
  | network (action : SessionAction Thread) (network : SessionState Thread)
      (permitted : conversation.permits gameThread action = true)
      (taken : conversation.network.step env action = some network) :
      Proceeds env sessionId gameThread conversation (.network action) { conversation with
        network := network
        eventQueue := conversation.eventQueue ++ (handedOn conversation.network action).map
          (packetEvent conversation.network.session.sessionId) }
  | event (event : NetworkEvent) (other : event.sessionId ≠ sessionId) :
      Proceeds env sessionId gameThread conversation (.event event)
        { conversation with eventQueue := conversation.eventQueue ++ [event] }
  | disconnected (invalid : conversation.network.session.valid = false) :
      Proceeds env sessionId gameThread conversation .disconnected { conversation with
        eventQueue := conversation.eventQueue ++ [⟨.disconnected, sessionId, []⟩] }
  | pop (stale : Stale) (event : NetworkEvent) (rest : List NetworkEvent)
      (settled : conversation.sending = []) (first : conversation.eventQueue = event :: rest) :
      Proceeds env sessionId gameThread conversation (.popNetworkEvent stale) { conversation with
        eventQueue := rest
        game := (dispatch stale conversation.game event).1
        sending := (dispatch stale conversation.game event).2 }
  | send (message : ServerMessage) (rest : List Sent)
      (first : conversation.sending = (sessionId, message) :: rest)
      (network : SessionState Thread) (free : conversation.network.free gameThread = true)
      (taken : conversation.network.step env (.call gameThread (.ofBytes message.encode)) =
        some network) :
      Proceeds env sessionId gameThread conversation .requestSendMsg { conversation with
        network := network
        sending := rest }
  | skip (recipient : SessionId) (message : ServerMessage) (rest : List Sent)
      (first : conversation.sending = (recipient, message) :: rest)
      (other : recipient ≠ sessionId) :
      Proceeds env sessionId gameThread conversation .requestSendMsg
        { conversation with sending := rest }
  | ask (action : ConversationAction Thread) (asked : DialogueAction)
      (request : CRoom × ClientMessage)
      (asks : ∀ dialogue : Dialogue, dialogue.room = conversation.room →
        dialogue.step sessionId asked = some (dialogue.ask request)) :
      Proceeds env sessionId gameThread conversation action (conversation.ask request)
  | recv (length : Nat) (present : length ≤ conversation.unread.length) :
      Proceeds env sessionId gameThread conversation (.recv length) { conversation with
        room := receive conversation.room (conversation.unread.take length)
        read := conversation.read ++ [conversation.unread.take length] }

theorem step_proceeds {env : Environment} {sessionId : SessionId} {gameThread : Thread}
    {conversation next : Conversation Thread} {action : ConversationAction Thread}
    (taken : conversation.step env sessionId gameThread action = some next) :
    Proceeds env sessionId gameThread conversation action next := by
  cases action with
  | network action =>
    obtain ⟨_, permitted, taken⟩ := Option.bind_eq_some_iff.mp taken
    obtain ⟨network, moved, taken⟩ := Option.bind_eq_some_iff.mp taken
    cases taken
    exact .network action network ((Option.guard_eq_some' _).mp permitted) moved
  | event event =>
    obtain ⟨_, other, taken⟩ := Option.bind_eq_some_iff.mp taken
    cases taken
    exact .event event ((Option.guard_eq_some' _).mp other)
  | disconnected =>
    obtain ⟨_, invalid, taken⟩ := Option.bind_eq_some_iff.mp taken
    cases taken
    exact .disconnected ((Option.guard_eq_some' _).mp invalid)
  | popNetworkEvent stale =>
    simp only [step] at taken
    split at taken
    · next event rest settled first =>
      obtain ⟨_, _, taken⟩ := Option.bind_eq_some_iff.mp taken
      cases taken
      exact .pop stale event rest settled first
    · cases taken
  | requestSendMsg =>
    simp only [step] at taken
    split at taken
    · next recipient message rest first =>
      obtain ⟨_, free, taken⟩ := Option.bind_eq_some_iff.mp taken
      by_cases same : recipient = sessionId
      · subst same
        rw [if_pos rfl] at taken
        obtain ⟨network, called, taken⟩ := Option.bind_eq_some_iff.mp taken
        cases taken
        exact .send message rest first network ((Option.guard_eq_some' _).mp free) called
      · rw [if_neg same] at taken
        cases taken
        exact .skip recipient message rest first same
    · cases taken
  | requestRoomList =>
    cases taken
    exact .ask _ .requestRoomList _ fun dialogue same => by rw [← same]; rfl
  | requestCreateRoom stale title maxPlayers =>
    cases taken
    exact .ask _ (.requestCreateRoom stale title maxPlayers) _ fun dialogue same => by
      rw [← same]; rfl
  | requestJoinRoom roomId =>
    cases taken
    exact .ask _ (.requestJoinRoom roomId) _ fun dialogue same => by rw [← same]; rfl
  | requestLeaveRoom =>
    cases taken
    exact .ask _ .requestLeaveRoom _ fun dialogue same => by rw [← same]; rfl
  | recv length =>
    obtain ⟨_, bounds, taken⟩ := Option.bind_eq_some_iff.mp taken
    cases taken
    obtain ⟨_, _, present⟩ := (Option.guard_eq_some' _).mp bounds
    exact .recv length present

end Conversation

end MiniGames.Client
