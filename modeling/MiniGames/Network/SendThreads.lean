import MiniGames.Network.SendPath
import MiniGames.Shared.Token

set_option autoImplicit false

namespace MiniGames

open Circular CRingBufferT Token

structure SendRequest where
  segments : List Segment
  -- Not in the source: what the buffers held when WSASend was called.
  bytes : List UInt8

structure SendState (Thread : Type) where
  session : CSession
  threads : Thread → SendPc
  outstanding : List SendRequest
  -- Not in the source: the payloads that Enqueue took, the bytes that completions have consumed,
  -- and the bytes that Winsock has reported as sent.
  enqueued : List (List UInt8)
  acknowledged : List UInt8
  transmitted : List UInt8

inductive SendAction (Thread : Type) where
  | call (thread : Thread) (payload : Payload)
  | run (thread : Thread) (accepted : Bool) (garbage : Nat)
  -- A WSASend completes and a worker enters ProcessSend.
  | complete (thread : Thread) (position bytesTransferred : Nat)
  -- `_valid` is cleared by a thread outside the send path.
  | invalidate

namespace SendState

variable {Thread : Type} [DecidableEq Thread]

/-- A session that Initialize has just prepared, and no thread on its send path. -/
def start (recvMemory sendMemory : Option (Nat → UInt8)) (sessionId : SessionId)
    (socket : Socket) : SendState Thread :=
  { session := (CSession.new recvMemory sendMemory).initializeSession (some socket) sessionId socket
    threads := fun _ => .idle
    outstanding := []
    enqueued := []
    acknowledged := []
    transmitted := [] }

def run (state : SendState Thread) (thread : Thread) (accepted : Bool) (garbage : Nat) :
    SendState Thread :=
  let pc := state.threads thread
  let ring := state.session.sendQ
  let turn := pc.turn state.session accepted garbage
  { session := turn.session
    threads := Function.update state.threads thread turn.next
    outstanding := state.outstanding ++
      if accepted then
        (turn.called.map fun segments => ⟨segments, gather ring.memory segments⟩).toList
      else []
    enqueued := state.enqueued ++
      match pc with
      | .enqueue payload =>
          if (ring.enqueue payload.data payload.size).2.returned = payload.size then [payload.bytes]
          else []
      | _ => []
    acknowledged := state.acknowledged ++
      match pc with
      | .consume size => ring.contents.take (ring.consume size).2.returned
      | _ => []
    transmitted := state.transmitted }

def enter (state : SendState Thread) (thread : Thread) (pc : SendPc) : SendState Thread :=
  { state with threads := Function.update state.threads thread pc }

-- A run ends with the session: nothing is said about what follows a disconnect.
def step (state : SendState Thread) (action : SendAction Thread) : Option (SendState Thread) := do
  guard (state.session.valid = true)
  match action with
  | .call thread payload => do
      guard (state.threads thread = .idle)
      pure (state.enter thread (.checkValid payload))
  | .run thread accepted garbage => pure (state.run thread accepted garbage)
  | .complete thread position bytesTransferred => do
      guard (state.threads thread = .idle)
      let request ← state.outstanding[position]?
      guard (0 < bytesTransferred ∧ bytesTransferred ≤ total request.segments)
      pure { state.enter thread (.sentValid bytesTransferred) with
        outstanding := state.outstanding.eraseIdx position
        transmitted := state.transmitted ++
          (gather state.session.sendQ.memory request.segments).take bytesTransferred }
  | .invalidate => pure { state with session := state.session.storeValid false }

/-- What a thread relies on while it holds the token. -/
def Ready (ring : CRingBufferT) : SendPc → Prop
  | .sentValid size | .consume size => 0 < size ∧ size ≤ ring.getDataSize
  | .wsaSend info | .wsaSendRest info => Covers ring info
  | _ => True

-- The bytes that a completion has reported and ProcessSend has yet to consume.
def reported (threads : Thread → SendPc) : Placement Thread → Nat
  | .held thread => (threads thread).reported
  | _ => 0

-- The posted buffers still cover the first bytes of the queue.
def InFlight (ring : CRingBufferT) (request : SendRequest) : Prop :=
  ∃ size, 0 < size ∧ size ≤ ring.getDataSize ∧
    request.segments = split ring.capacity ring.readPos size ∧
    request.bytes = ring.contents.take size

structure Intact (state : SendState Thread) (placement : Placement Thread) : Prop where
  sound : state.session.sendQ.Sound
  capacity : state.session.sendQ.capacity = 65536
  placed : Placed SendPc.owns state.threads state.outstanding.length placement
  flag : state.session.sending = true ↔ placement ≠ .free
  ledger : state.acknowledged ++ state.session.sendQ.contents = state.enqueued.flatten
  ready : ∀ thread, placement = .held thread →
    Ready state.session.sendQ (state.threads thread)
  sent : state.transmitted = state.acknowledged ++
    state.session.sendQ.contents.take (reported state.threads placement)
  inFlight : ∀ request ∈ state.outstanding, InFlight state.session.sendQ request

structure Grown (ring larger : CRingBufferT) (more : List UInt8) : Prop where
  sound : larger.Sound
  capacity : larger.capacity = ring.capacity
  readPos : larger.readPos = ring.readPos
  contents : larger.contents = ring.contents ++ more

namespace Grown

variable {ring larger : CRingBufferT} {more : List UInt8}

theorem refl (sound : ring.Sound) : Grown ring ring [] :=
  ⟨sound, rfl, rfl, (List.append_nil _).symm⟩

variable (grown : Grown ring larger more)

include grown

theorem dataSize : ring.getDataSize ≤ larger.getDataSize := by
  have length := congrArg List.length grown.contents
  simp only [List.length_append, contents_length] at length
  omega

theorem take {size : Nat} (stored : size ≤ ring.getDataSize) :
    larger.contents.take size = ring.contents.take size := by
  rw [grown.contents, List.take_append_of_le_length (by rwa [contents_length])]

theorem covers {info : SendInfo} (covers : Covers ring info) : Covers larger info := by
  obtain ⟨some, stored, buffers⟩ := covers
  exact ⟨some, Nat.le_trans stored grown.dataSize, by
    rw [grown.capacity, grown.readPos]; exact buffers⟩

theorem inFlight {request : SendRequest} (posted : InFlight ring request) :
    InFlight larger request := by
  obtain ⟨size, some, stored, segments, bytes⟩ := posted
  refine ⟨size, some, Nat.le_trans stored grown.dataSize, ?_, ?_⟩
  · rw [grown.capacity, grown.readPos]; exact segments
  · rw [grown.take stored]; exact bytes

theorem ready {pc : SendPc} (ready : Ready ring pc) : Ready larger pc := by
  have larger := grown.dataSize
  cases pc <;> simp only [Ready] at ready ⊢
  case sentValid size => exact ⟨ready.1, by omega⟩
  case consume size => exact ⟨ready.1, by omega⟩
  case wsaSend info => exact grown.covers ready
  case wsaSendRest info => exact grown.covers ready

end Grown

theorem Ready.reported_le {ring : CRingBufferT} {pc : SendPc} (ready : Ready ring pc) :
    pc.reported ≤ ring.getDataSize := by
  cases pc <;> simp only [Ready, SendPc.reported] at ready ⊢ <;> omega

theorem reported_other {threads : Thread → SendPc} {placement : Placement Thread}
    {thread : Thread} (outside : placement ≠ .held thread) (pc : SendPc) :
    reported (Function.update threads thread pc) placement = reported threads placement := by
  cases placement with
  | held other =>
    have moved : other ≠ thread := fun same => outside (same ▸ rfl)
    simp [reported, moved]
  | free => rfl
  | pending => rfl

namespace Intact

variable {state : SendState Thread} {placement : Placement Thread} {thread : Thread}
  {next : SendPc} {session : CSession}

theorem bystander (intact : Intact state placement) (payloads : List (List UInt8))
    (outside : (state.threads thread).owns = false) (still : next.owns = false)
    (same : session.sending = state.session.sending)
    (grown : Grown state.session.sendQ session.sendQ payloads.flatten) :
    Intact { state with
      session := session
      threads := Function.update state.threads thread next
      enqueued := state.enqueued ++ payloads } placement := by
  have apart : placement ≠ .held thread := by
    rintro rfl
    exact absurd ((intact.placed.2 thread).mpr rfl) (by simp [outside])
  exact {
    sound := grown.sound
    capacity := grown.capacity.trans intact.capacity
    placed := intact.placed.stay (still.trans outside.symm)
    flag := by rw [← intact.flag]; exact iff_of_eq (congrArg (· = true) same)
    ledger := by
      simp only [grown.contents, ← List.append_assoc, intact.ledger, List.flatten_append]
    ready := by
      intro other held
      have moved : other ≠ thread := fun same => apart (same ▸ held)
      simp only [Function.update_of_ne moved]
      exact grown.ready (intact.ready other held)
    sent := by
      have stored : reported state.threads placement ≤ state.session.sendQ.getDataSize := by
        cases placement with
        | held other => exact (intact.ready other rfl).reported_le
        | free => exact Nat.zero_le _
        | pending => exact Nat.zero_le _
      simp only [reported_other apart, grown.take stored]
      exact intact.sent
    inFlight := fun request member => grown.inFlight (intact.inFlight request member) }

omit [DecidableEq Thread] in
theorem sent_settled (intact : Intact state (.held thread))
    (settled : (state.threads thread).reported = 0) : state.transmitted = state.acknowledged := by
  have sent := intact.sent
  simpa [reported, settled] using sent

theorem proceed (intact : Intact state (.held thread)) (keeps : next.owns = true)
    (same : session.sending = state.session.sending)
    (ring : session.sendQ = state.session.sendQ) (ready : Ready state.session.sendQ next)
    (count : next.reported = (state.threads thread).reported) :
    Intact { state with
      session := session
      threads := Function.update state.threads thread next } (.held thread) := by
  have owned : (state.threads thread).owns = true := (intact.placed.2 thread).mpr rfl
  exact {
    sound := ring ▸ intact.sound
    capacity := ring ▸ intact.capacity
    placed := intact.placed.stay (keeps.trans owned.symm)
    flag := by rw [← intact.flag]; exact iff_of_eq (congrArg (· = true) same)
    ledger := by simpa only [ring] using intact.ledger
    ready := by
      intro other held
      cases held
      simpa only [Function.update_self, ring] using ready
    sent := by
      have sent := intact.sent
      simpa only [reported, Function.update_self, ring, count] using sent
    inFlight := by simpa only [ring] using intact.inFlight }

theorem release (intact : Intact state (.held thread)) (given : next.owns = false)
    (settled : (state.threads thread).reported = 0) :
    Intact { state with
      session := state.session.storeSending false
      threads := Function.update state.threads thread next } .free where
  sound := intact.sound
  capacity := intact.capacity
  placed := intact.placed.release given
  flag := by simp [CSession.storeSending]
  ledger := intact.ledger
  ready := nofun
  sent := by simpa [reported] using intact.sent_settled settled
  inFlight := intact.inFlight

theorem launch (intact : Intact state (.held thread)) (given : next.owns = false)
    (settled : (state.threads thread).reported = 0)
    (same : session.sending = state.session.sending)
    (ring : session.sendQ = state.session.sendQ) {request : SendRequest}
    (posted : InFlight state.session.sendQ request) :
    Intact { state with
      session := session
      threads := Function.update state.threads thread next
      outstanding := state.outstanding ++ [request] } .pending where
  sound := ring ▸ intact.sound
  capacity := ring ▸ intact.capacity
  placed := by simpa using intact.placed.launch given
  flag := by
    have flag := intact.flag
    simpa [same] using flag
  ledger := by simpa only [ring] using intact.ledger
  ready := nofun
  sent := by simpa [reported] using intact.sent_settled settled
  inFlight := by
    intro other member
    rw [List.length_eq_zero_iff.mp intact.placed.1, List.nil_append, List.mem_singleton] at member
    simpa only [ring, member] using posted

theorem acquire (intact : Intact state .free) (thread : Thread) (taken : next.owns = true)
    (ready : Ready state.session.sendQ next) (settled : next.reported = 0) :
    Intact { state with
      session := state.session.storeSending true
      threads := Function.update state.threads thread next } (.held thread) where
  sound := intact.sound
  capacity := intact.capacity
  placed := intact.placed.acquire taken
  flag := by simp [CSession.storeSending]
  ledger := intact.ledger
  ready := by
    intro other held
    cases held
    simpa only [Function.update_self, CSession.storeSending] using ready
  sent := by
    have sent := intact.sent
    simpa [reported, settled, CSession.storeSending] using sent
  inFlight := intact.inFlight

theorem land (intact : Intact state placement) {position size : Nat} {request : SendRequest}
    (found : state.outstanding[position]? = some request) (some : 0 < size)
    (fits : size ≤ total request.segments) :
    Intact { state.enter thread (.sentValid size) with
      outstanding := state.outstanding.eraseIdx position
      transmitted := state.transmitted ++
        (gather state.session.sendQ.memory request.segments).take size } (.held thread) := by
  have member := List.mem_of_getElem? found
  obtain ⟨length, _, stored, segments, _⟩ := intact.inFlight request member
  have pending : state.outstanding.length = (state.outstanding.eraseIdx position).length + 1 := by
    have inside := (List.getElem?_eq_some_iff.mp found).1
    rw [List.length_eraseIdx_of_lt inside]
    omega
  have placed := pending ▸ intact.placed
  have busy := placed.busy (Nat.succ_pos _)
  subst busy
  rw [segments, total_split] at fits
  exact {
    sound := intact.sound
    capacity := intact.capacity
    placed := placed.land rfl
    flag := by
      have flag := intact.flag
      simpa [enter] using flag
    ledger := intact.ledger
    ready := by
      intro other held
      cases held
      simp only [enter, Function.update_self]
      exact ⟨some, Nat.le_trans fits stored⟩
    sent := by
      have settled := intact.sent
      simp only [reported, List.take_zero, List.append_nil] at settled
      simp [settled, enter, reported, SendPc.reported, segments,
        gather_posted intact.sound stored, List.take_take, Nat.min_eq_left fits]
    inFlight := by
      intro other within
      exact intact.inFlight other (List.mem_of_mem_eraseIdx within) }

theorem consume (intact : Intact state (.held thread)) {size : Nat}
    (at_pc : state.threads thread = .consume size) :
    state.session.sendQ.consume size = (state.session.sendQ.drained size, ⟨size, []⟩) ∧
      Intact { state with
        session := state.session.storeSendQ (state.session.sendQ.drained size)
        threads := Function.update state.threads thread .getRest
        acknowledged := state.acknowledged ++ state.session.sendQ.contents.take size }
          (.held thread) := by
  have rely := intact.ready thread rfl
  rw [at_pc] at rely
  have allocated := intact.sound.allocated (Nat.lt_of_lt_of_le rely.1 rely.2)
  obtain ⟨kept, _, left⟩ := intact.sound.drained_spec allocated rely.2
  refine ⟨intact.sound.consume_accepted allocated rely.1 rely.2, ?_⟩
  have owned : (state.threads thread).owns = true := (intact.placed.2 thread).mpr rfl
  exact {
    sound := kept
    capacity := intact.capacity
    placed := intact.placed.stay (owned ▸ rfl)
    flag := intact.flag
    ledger := by
      simpa only [CSession.storeSendQ, left, List.append_assoc, List.take_append_drop] using
        intact.ledger
    ready := by
      intro other held
      cases held
      simp only [Function.update_self, Ready]
    sent := by
      have sent := intact.sent
      simpa [reported, at_pc, SendPc.reported] using sent
    inFlight := by
      intro request member
      simp [List.length_eq_zero_iff.mp intact.placed.1] at member }

end Intact

end SendState

end MiniGames
