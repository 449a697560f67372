import MiniGames.Network.EchoStream
import MiniGames.Network.SendIntegrity

set_option autoImplicit false

namespace MiniGames

open Circular CRingBufferT Framing Runs Server Token

namespace SendState

variable {Thread : Type} {state : SendState Thread} {placement : Placement Thread}

namespace Intact

theorem resession (intact : Intact state placement) {session : CSession}
    (sending : session.sending = state.session.sending)
    (ring : session.sendQ = state.session.sendQ) :
    Intact { state with session := session } placement where
  sound := ring ▸ intact.sound
  capacity := ring ▸ intact.capacity
  placed := intact.placed
  flag := by
    have flag := intact.flag
    simpa only [sending] using flag
  ledger := by simpa only [ring] using intact.ledger
  ready := by simpa only [ring] using intact.ready
  sent := by simpa only [ring] using intact.sent
  inFlight := by simpa only [ring] using intact.inFlight

theorem transmitted_prefix (intact : Intact state placement) :
    state.transmitted <+: state.enqueued.flatten := by
  rw [intact.sent, ← intact.ledger, List.prefix_append_right_inj]
  exact List.take_prefix ..

theorem drained (intact : Intact state placement) (empty : state.session.sendQ.contents = []) :
    state.transmitted = state.enqueued.flatten := by
  rw [intact.sent, ← intact.ledger, empty, List.take_nil]

variable [DecidableEq Thread]

theorem enter (intact : Intact state placement) {thread : Thread} {pc : SendPc}
    (idle : state.threads thread = .idle) (outside : pc.owns = false) :
    Intact (state.enter thread pc) placement := by
  have kept := intact.bystander [] (by rw [idle]; rfl) outside rfl (.refl intact.sound)
  simpa only [SendState.enter, List.append_nil] using kept

theorem run_enqueued (intact : Intact state placement) (thread : Thread) (accepted : Bool)
    (garbage : Nat) : (state.run thread accepted garbage).enqueued = state.enqueued ∨
      ∃ payload, state.threads thread = .enqueue payload ∧ payload.bytes.length = payload.size ∧
        payload.size ≤ 65535 ∧
        (state.run thread accepted garbage).enqueued = state.enqueued ++ [payload.bytes] := by
  cases at_pc : state.threads thread with
  | enqueue payload =>
    have run : (state.run thread accepted garbage).enqueued = state.enqueued ++
        if (state.session.sendQ.enqueue payload.data payload.size).2.returned = payload.size
        then [payload.bytes] else [] := by
      simp only [SendState.run, at_pc]
    rcases intact.sound.enqueue_cases payload with refused | ⟨length, positive, room, taken⟩
    · by_cases empty : payload.size = 0
      · rw [refused, if_pos empty.symm] at run
        refine .inr ⟨payload, rfl, ?_, by omega, run⟩
        simp [Payload.bytes, empty]
      · rw [refused, if_neg (Ne.symm empty), List.append_nil] at run
        exact .inl run
    · rw [taken, if_pos rfl] at run
      have free := intact.sound.freeSize_eq
      have capacity := intact.capacity
      exact .inr ⟨payload, rfl, length, by omega, run⟩
  | _ => exact .inl (by simp [SendState.run, at_pc])

end Intact

end SendState

namespace SessionState

variable {env : Environment} {Thread : Type}

inductive Takes [DecidableEq Thread] (env : Environment) (state : SessionState Thread) :
    SessionAction Thread → SessionState Thread → Prop where
  | call (thread : Thread) (payload : Payload) (free : state.free thread = true) :
      Takes env state (.call thread payload) (state.enter thread (.checkValid payload))
  | run (thread : Thread) (accepted : Bool) (garbage : Nat) :
      Takes env state (.run thread accepted garbage)
        { state with send := state.send.run thread accepted garbage }
  | sent (thread : Thread) (position size : Nat) (request : SendRequest)
      (free : state.free thread = true) (found : state.send.outstanding[position]? = some request)
      (some : 0 < size) (fits : size ≤ total request.segments) :
      Takes env state (.sent thread position size) { state with
        send := { state.send.enter thread (.sentValid size) with
          outstanding := state.send.outstanding.eraseIdx position
          transmitted := state.send.transmitted ++
            (gather state.session.sendQ.memory request.segments).take size } }
  | receive (segments : List Segment) (bytes : List UInt8)
      (posted : state.receive = .posted segments) :
      Takes env state (.receive bytes) { state.modify fun session =>
          session.storeRecvQ (fill session.recvQ segments bytes) with
        receive := .completed bytes.length
        received := state.received ++ bytes }
  | worker (thread : Thread) (size : Nat) (completed : state.receive = .completed size)
      (free : state.free thread = true) :
      Takes env state (.worker thread) (state.dispatch thread size)
  | statement (thread : Thread) (pc : ReceivePc) (accepted : Bool)
      (handled : state.receive = .handled thread pc) (idle : state.send.threads thread = .idle) :
      Takes env state (.statement accepted) (state.receiveTurn env thread accepted pc)
  | invalidate : Takes env state .invalidate (state.modify (CSession.storeValid false))
  | clearSending (invalid : state.session.valid = false) :
      Takes env state .clearSending (state.modify (CSession.storeSending false))

theorem step_takes [DecidableEq Thread] {state next : SessionState Thread}
    {action : SessionAction Thread} (taken : state.step env action = some next) :
    Takes env state action next := by
  cases action with
  | call thread payload =>
    obtain ⟨_, guarded, taken⟩ := Option.bind_eq_some_iff.mp taken
    cases taken
    exact .call thread payload ((Option.guard_eq_some' _).mp guarded).1
  | run thread accepted garbage =>
    cases taken
    exact .run thread accepted garbage
  | sent thread position size =>
    obtain ⟨_, free, taken⟩ := Option.bind_eq_some_iff.mp taken
    obtain ⟨request, found, taken⟩ := Option.bind_eq_some_iff.mp taken
    obtain ⟨_, bounds, taken⟩ := Option.bind_eq_some_iff.mp taken
    cases taken
    obtain ⟨some, fits⟩ := (Option.guard_eq_some' _).mp bounds
    exact .sent thread position size request ((Option.guard_eq_some' _).mp free) found some fits
  | receive bytes =>
    simp only [step] at taken
    split at taken
    · next segments posted =>
      obtain ⟨_, _, taken⟩ := Option.bind_eq_some_iff.mp taken
      cases taken
      exact .receive segments bytes posted
    · cases taken
  | worker thread =>
    simp only [step] at taken
    split at taken
    · next size completed =>
      obtain ⟨_, free, taken⟩ := Option.bind_eq_some_iff.mp taken
      cases taken
      exact .worker thread size completed ((Option.guard_eq_some' _).mp free)
    · cases taken
  | statement accepted =>
    simp only [step] at taken
    split at taken
    · next thread pc handled =>
      obtain ⟨_, idle, taken⟩ := Option.bind_eq_some_iff.mp taken
      cases taken
      exact .statement thread pc accepted handled ((Option.guard_eq_some' _).mp idle)
    · cases taken
  | invalidate =>
    cases taken
    exact .invalidate
  | clearSending =>
    obtain ⟨_, invalid, taken⟩ := Option.bind_eq_some_iff.mp taken
    cases taken
    exact .clearSending ((Option.guard_eq_some' _).mp invalid)

/-- The send path of the session is as it would be without the receive path. -/
structure Sending (state : SessionState Thread) : Prop where
  intact : ∃ placement, SendState.Intact state.send placement
  short : ∀ payload ∈ state.send.enqueued, payload.length ≤ 65535

variable {state next : SessionState Thread}

theorem Sending.modify (sending : Sending state) {change : CSession → CSession}
    (flag : (change state.session).sending = state.session.sending)
    (ring : (change state.session).sendQ = state.session.sendQ) (receive : Receive Thread)
    (received : List UInt8) (taken : List (List UInt8)) :
    Sending { state.modify change with
      receive := receive
      received := received
      taken := taken } := by
  obtain ⟨placement, intact⟩ := sending.intact
  exact ⟨⟨placement, intact.resession flag ring⟩, sending.short⟩

variable [DecidableEq Thread] {thread : Thread}

theorem Sending.enter (sending : Sending state) {pc : SendPc}
    (idle : state.send.threads thread = .idle) (outside : pc.owns = false)
    (receive : Receive Thread) : Sending { state.enter thread pc with receive := receive } := by
  obtain ⟨placement, intact⟩ := sending.intact
  exact ⟨⟨placement, intact.enter idle outside⟩, sending.short⟩

theorem Sending.run (sending : Sending state) (valid : state.session.valid = true) (thread : Thread)
    (accepted : Bool) (garbage : Nat) :
    Sending { state with send := state.send.run thread accepted garbage } := by
  obtain ⟨placement, intact⟩ := sending.intact
  refine ⟨intact.run valid accepted garbage, ?_⟩
  rcases intact.run_enqueued thread accepted garbage with same | ⟨payload, _, length, short, more⟩
  · simp only [same]
    exact sending.short
  · intro bytes member
    rcases List.mem_append.mp (more ▸ member) with old | new
    · exact sending.short bytes old
    · rw [List.mem_singleton.mp new, length]
      exact short

theorem Sending.dispatch (sending : Sending state) (receiving : Receiving env state) {size : Nat}
    (completed : state.receive = .completed size) (idle : state.send.threads thread = .idle) :
    Sending (state.dispatch thread size) := by
  obtain ⟨_, phase⟩ := receiving
  simp only [completed, Phase, Armed] at phase
  simp only [SessionState.dispatch]
  split
  · exact sending.enter idle rfl .ended
  split
  · exact ⟨sending.intact, sending.short⟩
  · simp only [phase.1, ne_eq, not_true, if_false]
    exact ⟨sending.intact, sending.short⟩

theorem Sending.statement (sending : Sending state) (idle : state.send.threads thread = .idle)
    (accepted : Bool) (pc : ReceivePc) : Sending (state.receiveTurn env thread accepted pc) := by
  have moved (ring : CRingBufferT) : Sending (state.modify (CSession.storeRecvQ ring)) :=
    sending.modify rfl rfl state.receive state.received state.taken
  have armed : Sending (state.modify CSession.armRecv) :=
    sending.modify rfl rfl state.receive state.received state.taken
  have outside : SendPc.disconnect.owns = false := rfl
  cases pc with
  | moveWritePtr size =>
    simp only [receiveTurn]
    split
    · exact (moved (state.session.recvQ.moveWritePtr size).1).enter idle outside .ended
    · exact sending.modify rfl rfl _ _ _
  | parse =>
    simp only [receiveTurn]
    split
    · exact ⟨sending.intact, sending.short⟩
    · exact sending.enter idle rfl _
    · exact sending.modify rfl rfl _ _ _
  | deliver bytes =>
    simp only [receiveTurn]
    split
    · exact sending.enter idle rfl _
    · exact ⟨sending.intact, sending.short⟩
  | postRecv => exact ⟨sending.intact, sending.short⟩
  | wsaRecv =>
    simp only [receiveTurn]
    split
    · exact armed.enter idle rfl .ended
    · exact sending.modify rfl rfl _ _ _

theorem Sending.takes (sending : Sending state) (receiving : Receiving env state)
    (valid : state.session.valid = true) {action : SessionAction Thread}
    (takes : Takes env state action next) : Sending next := by
  cases takes with
  | call thread payload free => exact sending.enter (free_idle free) rfl state.receive
  | run thread accepted garbage => exact sending.run valid thread accepted garbage
  | sent thread position size request free found some fits =>
    obtain ⟨placement, intact⟩ := sending.intact
    exact ⟨⟨.held thread, intact.land found some fits⟩, sending.short⟩
  | receive | invalidate => exact sending.modify rfl rfl _ _ _
  | worker thread size completed free =>
    exact sending.dispatch receiving completed (free_idle free)
  | statement thread pc accepted handled idle => exact sending.statement idle accepted pc
  | clearSending invalid =>
    rw [invalid] at valid
    cases valid

theorem receiveTurn_session (state : SessionState Thread) (thread : Thread) (accepted : Bool)
    (pc : ReceivePc) :
    (state.receiveTurn env thread accepted pc).session.valid = state.session.valid ∧
      (state.receiveTurn env thread accepted pc).session.sessionId = state.session.sessionId := by
  cases pc with
  | moveWritePtr size | parse | deliver bytes | wsaRecv =>
    simp only [receiveTurn]
    split <;> exact ⟨rfl, rfl⟩
  | postRecv => exact ⟨rfl, rfl⟩

theorem dispatch_session (state : SessionState Thread) (thread : Thread) (size : Nat) :
    (state.dispatch thread size).session = state.session := by
  simp only [SessionState.dispatch]
  split
  · rfl
  split
  · rfl
  split
  · rfl
  split <;> rfl

theorem Moves.valid (moves : Moves env state next) (valid : next.session.valid = true) :
    state.session.valid = true := by
  cases moves with
  | run thread accepted garbage =>
    have turned : _ = (state.session.valid && _) :=
      (state.send.threads thread).turn_valid state.session accepted garbage
    exact (Bool.and_eq_true_iff.mp (turned.symm.trans valid)).1
  | worker thread size =>
    rw [dispatch_session] at valid
    exact valid
  | statement thread pc accepted =>
    exact (receiveTurn_session state thread accepted pc).1.symm.trans valid
  | invalidate => cases valid
  | call | sent | receive | clearSending => exact valid

theorem Moves.sessionId (moves : Moves env state next) :
    next.session.sessionId = state.session.sessionId := by
  cases moves with
  | run thread accepted garbage => exact (run_still state thread accepted garbage).sessionId
  | worker thread size => rw [dispatch_session]
  | statement thread pc accepted => exact (receiveTurn_session state thread accepted pc).2
  | call | sent | receive | invalidate | clearSending => rfl

theorem Moves.leaves (moves : Moves env state next) {thread : Thread}
    (leaves : state.Leaves thread) : next.Leaves thread := by
  cases moves with
  | call _ _ free | sent _ _ _ _ free => exact leaves_enter (free_idle free) thread leaves
  | run other accepted garbage =>
    exact (run_still state other accepted garbage).leaves thread leaves
  | receive | clearSending => exact leaves
  | worker other size completed free =>
    simp only [SessionState.dispatch]
    split
    · exact leaves_enter (free_idle free) thread leaves
    split
    · exact leaves
    split
    · exact leaves
    split
    · exact leaves
    · exact leaves_enter (free_idle free) thread leaves
    · exact leaves
  | statement other pc accepted handled idle =>
    cases pc with
    | moveWritePtr size | parse | deliver bytes | wsaRecv =>
      simp only [receiveTurn]
      split
      all_goals first
        | exact leaves
        | exact leaves_enter idle thread leaves
    | postRecv => exact leaves
  | invalidate => exact .inl rfl

variable {recvMemory sendMemory : Option (Nat → UInt8)} {sessionId : SessionId} {socket : Socket}
  {acceptThread : Thread}

omit [DecidableEq Thread] in
theorem start_sending :
    Sending (start recvMemory sendMemory sessionId socket acceptThread) :=
  ⟨⟨.free, SendState.start_intact⟩, fun _ member => absurd member List.not_mem_nil⟩

theorem reachable_sending (reached : Reachable (step env) Always
    (start recvMemory sendMemory sessionId socket acceptThread) state)
    (valid : state.session.valid = true) : Sending state := by
  induction reached with
  | start => exact start_sending
  | step reached _ taken ih =>
    have before := (step_moves taken).valid valid
    exact (ih before).takes (reachable_receiving reached) before (step_takes taken)

/-- A client of an echo server gets back what it has sent: nothing else at any time, and with
nothing left to send all but the frame that has not arrived as a whole. -/
theorem echo_returns (mode : env.architectureType = .echoTest)
    (reached : Reachable (step env) Always
      (start recvMemory sendMemory sessionId socket acceptThread) state)
    (valid : state.session.valid = true) :
    state.send.transmitted <+: state.received ∧
      ∀ segments, state.receive = .posted segments → state.session.sendQ.contents = [] →
        ∃ rest, env.framer.classify rest = .wait ∧
          state.send.transmitted ++ rest = state.received := by
  obtain ⟨placement, intact⟩ := (reachable_sending reached valid).intact
  obtain ⟨skipped, echoing⟩ := reachable_echoing mode reached
  constructor
  · have echoed := echoing.enqueued_prefix.flatten.trans (parse_flatten state.received)
    exact intact.transmitted_prefix.trans echoed
  · intro segments waiting empty
    obtain ⟨accepted, frames, closed⟩ := echoing.posted waiting
    have none : skipped = [] := by
      by_contra some
      rw [closed some] at valid
      cases valid
    rw [none, List.append_nil] at frames
    cases ending : (env.framer.parse state.received).ending with
    | residue rest =>
      refine ⟨rest, parse_residue_waits ending, ?_⟩
      rw [intact.drained empty, ← frames, parse_residue ending]
    | rejected => exact absurd ending accepted

-- A frame of three bytes has gone back, and the first byte of the next one has arrived.
theorem echo_returns_one_frame : ∃ state : SessionState (Fin 2),
    state.send.transmitted = [1, 0, 9] ∧ state.received = [1, 0, 9, 2] ∧
      ∃ rest, echoServer.framer.classify rest = .wait ∧
        state.send.transmitted ++ rest = state.received := by
  let schedule : List (List (SessionAction (Fin 2))) :=
    [[.statement true, .statement true, .receive [1, 0, 9, 2], .worker 1],
      List.replicate 3 (.statement true), List.replicate 6 (.run 1 true 0),
      List.replicate 3 (.statement true), [.sent 0 0 3], List.replicate 6 (.run 0 true 0)]
  obtain ⟨state, reached, seen⟩ := Reachable.observe (step echoServer)
    (start (some fun _ => 0) (some fun _ => 0) 1 1 0 : SessionState (Fin 2)) schedule.flatten
    (fun state => state.receive = .posted [⟨4, 65532⟩, ⟨0, 2⟩] ∧ state.received = [1, 0, 9, 2] ∧
      state.send.transmitted = [1, 0, 9] ∧ state.session.sendQ.contents = [] ∧
      state.session.valid = true)
    (by decide +kernel)
  obtain ⟨posted, received, transmitted, empty, valid⟩ := of_decide_eq_true seen
  have returned := echo_returns rfl reached valid
  exact ⟨state, transmitted, received, returned.2 _ posted empty⟩

end SessionState

end MiniGames
