import MiniGames.Process.Conversation

set_option autoImplicit false

namespace MiniGames.Client

open Circular Framing Runs CCentralizedServer SessionState

namespace Conversation

variable {env : Environment} {Thread : Type} [DecidableEq Thread] {gameThread : Thread}
  {sessionId : SessionId}

section Session

variable {network next : SessionState Thread} {action : SessionAction Thread}

structure Acts (network next : SessionState Thread) (action : SessionAction Thread) : Prop where
  packets : ∀ parts, network.taken = parts ++ inHand network →
    next.taken = parts ++ handedOn network action ++ inHand next
  sends : (∃ thread accepted garbage, next.send = network.send.run thread accepted garbage) ∨
    next.send.enqueued = network.send.enqueued ∧ ∀ thread,
      next.send.threads thread = network.send.threads thread ∨
        network.send.threads thread = .idle ∧ (next.send.threads thread).pending = none

theorem entered (network : SessionState Thread) {thread : Thread} {pc : SendPc}
    (idle : network.send.threads thread = .idle) (quiet : pc.pending = none) (other : Thread) :
    (network.enter thread pc).send.threads other = network.send.threads other ∨
      network.send.threads other = .idle ∧
        ((network.enter thread pc).send.threads other).pending = none := by
  by_cases same : other = thread
  · subst same
    exact .inr ⟨idle, by simp [SessionState.enter, SendState.enter, quiet]⟩
  · exact .inl (by simp [SessionState.enter, SendState.enter, same])

omit [DecidableEq Thread] in
theorem packets_kept (quiet : handedOn network action = [])
    (taken : next.taken = network.taken) (hand : inHand next = inHand network)
    (parts : List (List UInt8)) (split : network.taken = parts ++ inHand network) :
    next.taken = parts ++ handedOn network action ++ inHand next := by
  rw [quiet, List.append_nil, taken, hand, split]

theorem dispatch_acts {thread : Thread} {size : Nat} (completed : network.receive = .completed size)
    (idle : network.send.threads thread = .idle) :
    Acts network (network.dispatch thread size) (.worker thread) := by
  have kept {next : SessionState Thread} (taken : next.taken = network.taken)
      (empty : inHand next = []) :=
    packets_kept (show handedOn network (.worker thread) = [] from rfl) taken
      (empty.trans (show inHand network = [] by simp [inHand, completed]).symm)
  have entered {pc : SendPc} (quiet : pc.pending = none) := entered network idle quiet
  simp only [SessionState.dispatch]
  split
  · exact ⟨kept rfl rfl, .inr ⟨rfl, entered rfl⟩⟩
  split
  · exact ⟨kept rfl rfl, .inr ⟨rfl, fun _ => .inl rfl⟩⟩
  split
  · exact ⟨kept rfl rfl, .inr ⟨rfl, fun _ => .inl rfl⟩⟩
  split
  · exact ⟨kept rfl rfl, .inr ⟨rfl, fun _ => .inl rfl⟩⟩
  · exact ⟨kept rfl rfl, .inr ⟨rfl, entered rfl⟩⟩
  · exact ⟨kept rfl rfl, .inr ⟨rfl, fun _ => .inl rfl⟩⟩

theorem receiveTurn_acts (mode : env.architectureType = .centralized) {thread : Thread}
    {pc : ReceivePc} (handled : network.receive = .handled thread pc)
    (idle : network.send.threads thread = .idle) (accepted : Bool) :
    Acts network (network.receiveTurn env thread accepted pc) (.statement accepted) := by
  have left (state : SessionState Thread) (same : state.send.threads = network.send.threads)
      (other : Thread) : (state.enter thread .disconnect).send.threads other =
          network.send.threads other ∨ network.send.threads other = .idle ∧
        ((state.enter thread .disconnect).send.threads other).pending = none := by
    rw [← same]
    exact entered state (same ▸ idle) rfl other
  have kept (nothing : inHand network = []) {next : SessionState Thread}
      (taken : next.taken = network.taken) (empty : inHand next = []) :=
    packets_kept (show handedOn network (.statement accepted) = [] from nothing) taken
      (empty.trans nothing.symm)
  cases pc with
  | moveWritePtr size | wsaRecv =>
    have nothing : inHand network = [] := by simp [inHand, handled]
    simp only [receiveTurn]
    split
    · exact ⟨kept nothing rfl rfl, .inr ⟨rfl, left _ rfl⟩⟩
    · exact ⟨kept nothing rfl rfl, .inr ⟨rfl, fun _ => .inl rfl⟩⟩
  | parse =>
    have nothing : inHand network = [] := by simp [inHand, handled]
    simp only [receiveTurn]
    split
    · exact ⟨kept nothing rfl rfl, .inr ⟨rfl, fun _ => .inl rfl⟩⟩
    · exact ⟨kept nothing rfl rfl, .inr ⟨rfl, left _ rfl⟩⟩
    · refine ⟨fun parts split => ?_, .inr ⟨rfl, fun _ => .inl rfl⟩⟩
      rw [nothing, List.append_nil] at split
      simp only [handedOn, nothing, List.append_nil, split]
      rfl
  | deliver bytes =>
    simp only [receiveTurn, mode]
    refine ⟨fun parts split => ?_, .inr ⟨rfl, fun _ => .inl rfl⟩⟩
    simp only [handedOn]
    rw [split]
    exact (List.append_nil _).symm
  | postRecv =>
    have nothing : inHand network = [] := by simp [inHand, handled]
    have empty : inHand (network.receiveTurn env thread accepted .postRecv) = [] := by
      simp only [inHand, receiveTurn]
      split
      · next other =>
        split at other <;> cases other
      · rfl
    exact ⟨kept nothing rfl empty, .inr ⟨rfl, fun _ => .inl rfl⟩⟩

theorem takes_acts (mode : env.architectureType = .centralized)
    (uncalled : ∀ thread payload, action ≠ .call thread payload)
    (takes : Takes env network action next) : Acts network next action := by
  cases takes with
  | call thread payload => exact absurd rfl (uncalled thread payload)
  | run thread accepted garbage =>
    exact ⟨packets_kept rfl rfl rfl, .inl ⟨thread, accepted, garbage, rfl⟩⟩
  | sent thread position size request free =>
    exact ⟨packets_kept rfl rfl rfl, .inr ⟨rfl, entered network (free_idle free) rfl⟩⟩
  | receive segments bytes posted =>
    exact ⟨packets_kept rfl rfl (by simp [inHand, posted]), .inr ⟨rfl, fun _ => .inl rfl⟩⟩
  | worker thread size completed free => exact dispatch_acts completed (free_idle free)
  | statement thread pc accepted handled idle => exact receiveTurn_acts mode handled idle accepted
  | invalidate | clearSending =>
    exact ⟨packets_kept rfl rfl rfl, .inr ⟨rfl, fun _ => .inl rfl⟩⟩

end Session

theorem ofBytes_short {bytes : List UInt8} (small : bytes.length < 2 ^ 32)
    (fits : (Payload.ofBytes bytes).size ≤ 65535) : bytes.length ≤ 65535 := by
  simp only [Payload.size, Payload.ofBytes, Server.intToSize, Server.sizeToInt,
    BitVec.toInt_eq_toNat_cond, BitVec.toNat_ofNat] at fits
  split at fits <;> omega

inductive Holds : SendPc → List (List UInt8) → Prop where
  | nothing {pc : SendPc} (quiet : pc.pending = none) : Holds pc []
  | checks {bytes : List UInt8} (small : bytes.length < 2 ^ 32) :
      Holds (.checkValid (.ofBytes bytes)) [bytes]
  | enqueues {bytes : List UInt8} (small : bytes.length < 2 ^ 32) :
      Holds (.enqueue (.ofBytes bytes)) [bytes]

theorem Holds.idle {hand : List (List UInt8)} (holds : Holds .idle hand) : hand = [] := by
  cases holds
  rfl

theorem Holds.run {send : SendState Thread} {placement : Token.Placement Thread}
    (intact : SendState.Intact send placement) (valid : send.session.valid = true)
    {thread : Thread} {hand : List (List UInt8)} (holds : Holds (send.threads thread) hand)
    (accepted : Bool) (garbage : Nat) :
    (send.run thread accepted garbage).threads thread = .disconnect ∨
      ∃ left, Holds ((send.run thread accepted garbage).threads thread) left ∧
        (send.run thread accepted garbage).enqueued ++ left = send.enqueued ++ hand := by
  generalize at_pc : send.threads thread = pc at holds
  cases holds with
  | nothing quiet =>
    refine .inr ⟨[], .nothing ?_, ?_⟩
    · have turned := SendPc.turn_pending quiet send.session accepted garbage
      simpa [SendState.run, at_pc] using turned
    · cases pc with
      | checkValid payload => cases quiet
      | enqueue payload => cases quiet
      | _ => simp [SendState.run, at_pc]
  | @checks bytes small =>
    refine .inr ⟨[bytes], ?_, ?_⟩
    · simpa [SendState.run, at_pc, SendPc.turn, valid] using Holds.enqueues small
    · simp [SendState.run, at_pc]
  | @enqueues bytes small =>
    by_cases stored : (send.session.sendQ.enqueue (Payload.ofBytes bytes).data
        (Payload.ofBytes bytes).size).2.returned = (Payload.ofBytes bytes).size
    · have fits : (Payload.ofBytes bytes).size ≤ 65535 := by
        rcases intact.sound.enqueue_cases (.ofBytes bytes) with refused | ⟨_, _, room, _⟩
        · rw [refused] at stored
          exact stored ▸ Nat.zero_le _
        · have free := intact.sound.freeSize_eq
          have capacity := intact.capacity
          omega
      have whole := Payload.ofBytes_bytes (ofBytes_short small fits)
      refine .inr ⟨[], .nothing ?_, ?_⟩
      · simp [SendState.run, at_pc, SendPc.turn, stored, SendPc.pending]
      · simp [SendState.run, at_pc, stored, whole]
    · exact .inl (by simp [SendState.run, at_pc, SendPc.turn, stored])

-- The CONNECTED that the game thread has yet to pop.
def opening (sessionId : SessionId) (connected : Bool) : List NetworkEvent :=
  if connected then [] else [⟨.connected, sessionId, []⟩]

def own (sessionId : SessionId) (events : List NetworkEvent) : List NetworkEvent :=
  events.filter fun event => event.sessionId = sessionId

/-- The requests that the game thread has not popped are those that the client asked, in order, and
the messages that the client has not read are those that the game thread has sent. -/
structure Simulates (sessionId : SessionId) (gameThread : Thread)
    (conversation : Conversation Thread) (dialogue : Dialogue) : Prop where
  server : dialogue.server = conversation.game
  room : dialogue.room = conversation.room
  requests : ∃ served packets, conversation.asked = served ++ dialogue.requests ∧
    conversation.network.taken = served ++ packets ++ inHand conversation.network ∧
    own sessionId conversation.eventQueue =
      opening sessionId dialogue.connected ++ packets.map (packetEvent sessionId)
  replies : ∃ hand, Holds (conversation.network.send.threads gameThread) hand ∧
    conversation.network.send.enqueued ++ hand ++
        Dialogue.addressed sessionId conversation.sending =
      conversation.read ++ dialogue.replies.map Prod.fst
  messages : ∀ reply ∈ dialogue.replies, ∃ message : ServerMessage, reply.1 = message.encode
  small : ∀ sent ∈ conversation.sending, sent.2.size < 2 ^ 32
  quiet : ∀ thread, thread ≠ gameThread →
    (conversation.network.send.threads thread).pending = none

theorem own_append (first second : List NetworkEvent) :
    own sessionId (first ++ second) = own sessionId first ++ own sessionId second :=
  List.filter_append ..

theorem own_packets (packets : List (List UInt8)) :
    own sessionId (packets.map (packetEvent sessionId)) =
      packets.map (packetEvent sessionId) := by
  rw [own, List.filter_eq_self]
  intro event member
  obtain ⟨bytes, _, rfl⟩ := List.mem_map.mp member
  simp [packetEvent]

namespace Simulates

variable {conversation : Conversation Thread} {dialogue : Dialogue}
  (simulates : Simulates sessionId gameThread conversation dialogue)

include simulates

theorem network {network : SessionState Thread} {action : SessionAction Thread}
    (mode : env.architectureType = .centralized)
    (named : conversation.network.session.sessionId = sessionId)
    (sending : Sending conversation.network) (valid : conversation.network.session.valid = true)
    (permitted : conversation.permits gameThread action = true)
    (taken : conversation.network.step env action = some network)
    (alive : ∀ thread, ¬ network.Leaves thread) :
    Simulates sessionId gameThread { conversation with
      network := network
      eventQueue := conversation.eventQueue ++ (handedOn conversation.network action).map
        (packetEvent conversation.network.session.sessionId) } dialogue := by
  have uncalled (thread : Thread) (payload : Payload) : action ≠ .call thread payload := by
    rintro rfl
    cases permitted
  have acts := takes_acts mode uncalled (step_takes taken)
  constructor
  case server => exact simulates.server
  case room => exact simulates.room
  case requests =>
    obtain ⟨served, packets, asked, split, events⟩ := simulates.requests
    refine ⟨served, packets ++ handedOn conversation.network action, asked, ?_, ?_⟩
    · rw [acts.packets _ split, List.append_assoc served]
    · simp only [named]
      rw [own_append, own_packets, events, List.map_append, List.append_assoc]
  case replies =>
    obtain ⟨hand, holds, same⟩ := simulates.replies
    rcases acts.sends with ⟨thread, accepted, garbage, ran⟩ | ⟨enqueued, threads⟩
    · simp only [ran]
      obtain ⟨placement, intact⟩ := sending.intact
      by_cases ours : thread = gameThread
      · subst ours
        rcases holds.run intact valid accepted garbage with leaving | ⟨left, holds, moved⟩
        · exact absurd (.inr (ran ▸ leaving)) (alive thread)
        · exact ⟨left, holds, by rw [moved, same]⟩
      · refine ⟨hand, ?_, ?_⟩
        · simpa [SendState.run, Ne.symm ours] using holds
        · have quiet := Echoing.ran_enqueued (simulates.quiet thread ours) accepted garbage
          exact (congrArg (· ++ hand ++ _) quiet).trans same
    · rw [enqueued]
      rcases threads gameThread with kept | ⟨idle, quiet⟩
      · exact ⟨hand, kept ▸ holds, same⟩
      · rw [idle] at holds
        exact ⟨hand, holds.idle ▸ .nothing quiet, same⟩
  case messages => exact simulates.messages
  case small => exact simulates.small
  case quiet =>
    intro thread other
    have quiet := simulates.quiet thread other
    rcases acts.sends with ⟨ran, accepted, garbage, same⟩ | ⟨_, threads⟩
    · simp only [same]
      by_cases own : thread = ran
      · subst own
        have turned := SendPc.turn_pending quiet conversation.network.send.session accepted garbage
        simpa [SendState.run] using turned
      · simpa [SendState.run, own] using quiet
    · rcases threads thread with kept | ⟨_, quiet⟩
      · simp only [kept, quiet]
      · exact quiet

omit [DecidableEq Thread] in
theorem event {event : NetworkEvent} (other : event.sessionId ≠ sessionId) :
    Simulates sessionId gameThread
      { conversation with eventQueue := conversation.eventQueue ++ [event] } dialogue := by
  obtain ⟨served, packets, asked, split, events⟩ := simulates.requests
  have foreign : own sessionId [event] = [] := by simp [own, other]
  refine { simulates with requests := ⟨served, packets, asked, split, ?_⟩ }
  simp only [own_append, foreign, List.append_nil, events]

theorem send {message : ServerMessage} {rest : List Sent}
    (first : conversation.sending = (sessionId, message) :: rest)
    (free : conversation.network.free gameThread = true) :
    Simulates sessionId gameThread { conversation with
      network := conversation.network.enter gameThread (.checkValid (.ofBytes message.encode))
      sending := rest } dialogue := by
  have idle := free_idle free
  have small := simulates.small (sessionId, message) (by rw [first]; exact List.mem_cons_self)
  constructor
  case server => exact simulates.server
  case room => exact simulates.room
  case requests => exact simulates.requests
  case replies =>
    obtain ⟨hand, holds, same⟩ := simulates.replies
    rw [idle] at holds
    rw [holds.idle, List.append_nil, first] at same
    refine ⟨[message.encode], ?_, ?_⟩
    · simpa [SessionState.enter, SendState.enter] using Holds.checks (by simpa using small)
    · have head : Dialogue.addressed sessionId ((sessionId, message) :: rest) =
          [message.encode] ++ Dialogue.addressed sessionId rest := by
        simp [Dialogue.addressed]
      rw [head, ← List.append_assoc] at same
      exact same
  case messages => exact simulates.messages
  case small =>
    intro sent member
    exact simulates.small sent (by rw [first]; exact List.mem_cons_of_mem _ member)
  case quiet =>
    intro thread other
    simpa [SessionState.enter, SendState.enter, other] using simulates.quiet thread other

omit [DecidableEq Thread] in
theorem skip {recipient : SessionId} {message : ServerMessage} {rest : List Sent}
    (first : conversation.sending = (recipient, message) :: rest)
    (other : recipient ≠ sessionId) :
    Simulates sessionId gameThread { conversation with sending := rest } dialogue := by
  obtain ⟨hand, holds, same⟩ := simulates.replies
  have head : Dialogue.addressed sessionId ((recipient, message) :: rest) =
      Dialogue.addressed sessionId rest := by
    simp [Dialogue.addressed, other]
  rw [first, head] at same
  refine { simulates with
    replies := ⟨hand, holds, same⟩
    small := fun sent member => simulates.small sent ?_ }
  rw [first]
  exact List.mem_cons_of_mem _ member

omit [DecidableEq Thread] in
theorem ask (request : CRoom × ClientMessage) :
    Simulates sessionId gameThread (conversation.ask request) (dialogue.ask request) := by
  obtain ⟨served, packets, asked, split, events⟩ := simulates.requests
  refine { simulates with
    room := rfl
    requests := ⟨served, packets, ?_, split, events⟩ }
  simp only [Conversation.ask, Dialogue.ask, asked, List.append_assoc]

end Simulates

end Conversation

end MiniGames.Client
