import MiniGames.Network.ReceiveRuns

set_option autoImplicit false

namespace MiniGames

open Circular CRingBufferT Framing Runs Server

theorem CRingBufferT.Sound.consume_contents {ring : CRingBufferT} (sound : ring.Sound) (size : Nat) :
    ring.contents.take (ring.consume size).2.returned ++ (ring.consume size).1.contents =
      ring.contents := by
  by_cases refused : size = 0 ∨ ring.getDataSize < size
  · simp [consume_refused size refused]
  · have allocated := sound.allocated (by omega)
    obtain ⟨_, _, rest⟩ := sound.drained_spec allocated (by omega : size ≤ ring.getDataSize)
    rw [sound.consume_accepted allocated (by omega) (by omega), rest, List.take_append_drop]

namespace SendState

variable {Thread : Type} [DecidableEq Thread] {state : SendState Thread}

-- The bytes that were enqueued and not yet acknowledged are what the queue holds.
structure Accounted (state : SendState Thread) : Prop where
  sound : state.session.sendQ.Sound
  ledger : state.acknowledged ++ state.session.sendQ.contents = state.enqueued.flatten

theorem Accounted.run (accounted : Accounted state) (thread : Thread) (accepted : Bool)
    (garbage : Nat) : Accounted (state.run thread accepted garbage) := by
  obtain ⟨sound, ledger⟩ := accounted
  -- A statement that leaves `_sendQ` alone also leaves both histories.
  have kept {next : SendState Thread} (ring : next.session.sendQ = state.session.sendQ)
      (enqueued : next.enqueued = state.enqueued)
      (acknowledged : next.acknowledged = state.acknowledged) : Accounted next :=
    ⟨ring ▸ sound, by rw [ring, enqueued, acknowledged, ledger]⟩
  cases at_pc : state.threads thread with
  | enqueue payload =>
    obtain ⟨kept, _, _, contents⟩ := sound.enqueue_payload payload
    refine ⟨by simpa [SendState.run, at_pc, SendPc.turn, CSession.storeSendQ] using kept, ?_⟩
    simp only [SendState.run, at_pc, SendPc.turn, CSession.storeSendQ, contents,
      List.flatten_append, List.append_nil, ← List.append_assoc, ledger]
    split <;> simp
  | consume size =>
    refine ⟨?_, ?_⟩
    · have kept := (consume_kept state.session.sendQ size).sound sound
      simpa [SendState.run, at_pc, SendPc.turn, CSession.storeSendQ] using kept
    · have contents := sound.consume_contents size
      simp only [SendState.run, at_pc, SendPc.turn, CSession.storeSendQ, List.append_nil,
        List.append_assoc, contents, ledger]
  | wsaSend info =>
    apply kept
    · simp only [SendState.run, at_pc, SendPc.turn]
      split <;> rfl
    · simp [SendState.run, at_pc]
    · simp [SendState.run, at_pc]
  | wsaSendRest info =>
    apply kept
    · simp only [SendState.run, at_pc, SendPc.turn]
      split <;> rfl
    · simp [SendState.run, at_pc]
    · simp [SendState.run, at_pc]
  | _ => exact kept (by simp [SendState.run, at_pc, SendPc.turn, CSession.storeSending,
      CSession.storeValid]) (by simp [SendState.run, at_pc]) (by simp [SendState.run, at_pc])

end SendState

-- The payload that a thread in RequestSendMsg has yet to enqueue.
def SendPc.pending : SendPc → Option (List UInt8)
  | .checkValid payload | .enqueue payload => some payload.bytes
  | _ => none

theorem SendPc.turn_pending {pc : SendPc} (none : pc.pending = none) (session : CSession)
    (accepted : Bool) (garbage : Nat) :
    (pc.turn session accepted garbage).next.pending = Option.none := by
  cases pc with
  | checkValid payload => cases none
  | enqueue payload => cases none
  | idle | releaseEarly | releaseSent | releaseFailed | disconnect => rfl
  | wsaSend info | wsaSendRest info =>
    simp only [turn]
    split
    · rfl
    · split <;> rfl
  | _ =>
    simp only [turn]
    split <;> rfl

theorem Payload.ofBytes_bytes {bytes : List UInt8} (short : bytes.length ≤ 65535) :
    (ofBytes bytes).bytes = bytes := by
  have length : (ofBytes bytes).size = bytes.length := by
    have modulus : bytes.length % 2 ^ 32 = bytes.length := Nat.mod_eq_of_lt (by omega)
    have sign : 2 * bytes.length < 2 ^ 32 := by omega
    simp only [size, ofBytes, intToSize, sizeToInt, BitVec.toInt_eq_toNat_cond, BitVec.toNat_ofNat,
      modulus, sign, if_true]
    omega
  rw [Payload.bytes, length]
  simp [ofBytes]

namespace SessionState

variable {env : Environment} {Thread : Type}

-- The packet that ParsePackets has taken off and not yet echoed.
def held (state : SessionState Thread) : List (List UInt8) :=
  match state.receive with
  | .handled _ (.deliver bytes) => [bytes]
  | .handled thread .parse => (state.send.threads thread).pending.toList
  | _ => []

/-- The packets taken off are those echoed, those given up and the one in hand. -/
structure Echoing (env : Environment) (state : SessionState Thread)
    (skipped : List (List UInt8)) : Prop where
  receiving : Receiving env state
  accounted : SendState.Accounted state.send
  taken : state.taken = state.send.enqueued ++ skipped ++ state.held
  callers : ∀ thread, (state.send.threads thread).pending ≠ none →
    state.receive = .handled thread .parse
  closed : skipped ≠ [] → state.session.valid = false ∨
    ∃ thread, state.receive = .handled thread .parse ∧ state.send.threads thread = .disconnect
  first : ∀ thread payload, state.send.threads thread = .enqueue payload → skipped = []

namespace Echoing

variable {state next : SessionState Thread} {skipped : List (List UInt8)} {thread : Thread}

theorem settled (echoing : Echoing env state skipped)
    (idle : ∀ thread, state.receive = .handled thread .parse →
      state.send.threads thread = .idle) :
    (∀ thread, (state.send.threads thread).pending = none) ∧
      (skipped ≠ [] → state.session.valid = false) := by
  constructor
  · intro thread
    by_contra pending
    have handled := echoing.callers thread pending
    rw [idle thread handled] at pending
    exact pending rfl
  · intro some
    rcases echoing.closed some with invalid | ⟨thread, handled, leaving⟩
    · exact invalid
    · rw [idle thread handled] at leaving
      cases leaving

theorem advance [DecidableEq Thread] (echoing : Echoing env state skipped)
    (idle : ∀ thread, state.receive = .handled thread .parse →
      state.send.threads thread = .idle)
    (receiving : Receiving env next) (sendQ : next.session.sendQ = state.session.sendQ)
    (acknowledged : next.send.acknowledged = state.send.acknowledged)
    (enqueued : next.send.enqueued = state.send.enqueued)
    (taken : ∀ parts, state.taken = parts ++ state.held → next.taken = parts ++ next.held)
    (pc : SendPc) (threads : next.send.threads = Function.update state.send.threads thread pc)
    (called : pc.pending = none ∨
      next.receive = .handled thread .parse ∧ ∃ payload, pc = .checkValid payload)
    (invalid : state.session.valid = false → next.session.valid = false) :
    Echoing env next skipped := by
  obtain ⟨none, closed⟩ := echoing.settled idle
  obtain ⟨sound, ledger⟩ := echoing.accounted
  simp only [session] at sendQ
  have accounted : SendState.Accounted next.send :=
    ⟨sendQ ▸ sound, by rw [sendQ, acknowledged, enqueued, ledger]⟩
  refine ⟨receiving, accounted, ?_, ?_, fun some => .inl (invalid (closed some)), ?_⟩
  · rw [enqueued]
    exact taken _ echoing.taken
  · intro other pending
    rw [threads] at pending
    by_cases same : other = thread
    · subst same
      rw [Function.update_self] at pending
      exact (called.resolve_left pending).1
    · rw [Function.update_of_ne same] at pending
      exact absurd (none other) pending
  · intro other payload at_pc
    rw [threads] at at_pc
    by_cases same : other = thread
    · subst same
      rw [Function.update_self] at at_pc
      subst at_pc
      rcases called with quiet | ⟨_, _, call⟩
      · cases quiet
      · cases call
    · rw [Function.update_of_ne same] at at_pc
      have quiet := none other
      rw [at_pc] at quiet
      cases quiet

theorem elsewhere (echoing : Echoing env state skipped) (receiving : Receiving env next)
    (sendQ : next.session.sendQ = state.session.sendQ)
    (acknowledged : next.send.acknowledged = state.send.acknowledged)
    (enqueued : next.send.enqueued = state.send.enqueued)
    (taken : next.taken = state.taken) (receive : next.receive = state.receive)
    (threads : ∀ other, next.send.threads other = state.send.threads other ∨
      state.send.threads other = .idle ∧ (next.send.threads other).pending = none)
    (invalid : state.session.valid = false → next.session.valid = false) :
    Echoing env next skipped := by
  obtain ⟨sound, ledger⟩ := echoing.accounted
  simp only [session] at sendQ
  have pending (other : Thread) :
      (next.send.threads other).pending = (state.send.threads other).pending := by
    rcases threads other with same | ⟨idle, quiet⟩
    · rw [same]
    · rw [idle, quiet]
      rfl
  refine ⟨receiving, ⟨sendQ ▸ sound, by rw [sendQ, acknowledged, enqueued, ledger]⟩, ?_, ?_, ?_, ?_⟩
  · have held : next.held = state.held := by
      simp only [SessionState.held, receive, pending]
    rw [taken, enqueued, held]
    exact echoing.taken
  · intro other busy
    rw [pending other] at busy
    exact receive.trans (echoing.callers other busy)
  · intro some
    rcases echoing.closed some with closed | ⟨other, handled, leaving⟩
    · exact .inl (invalid closed)
    · rcases threads other with same | ⟨idle, _⟩
      · exact .inr ⟨other, receive.trans handled, same.trans leaving⟩
      · rw [idle] at leaving
        cases leaving
  · intro other payload at_pc
    rcases threads other with same | ⟨_, quiet⟩
    · exact echoing.first other payload (same.symm.trans at_pc)
    · rw [at_pc] at quiet
      cases quiet

theorem receive (echoing : Echoing env state skipped) {segments : List Segment}
    {bytes : List UInt8} (posted : state.receive = .posted segments)
    (receiving : Receiving env { state.modify fun session =>
        session.storeRecvQ (fill session.recvQ segments bytes) with
      receive := .completed bytes.length
      received := state.received ++ bytes }) :
    Echoing env { state.modify fun session =>
        session.storeRecvQ (fill session.recvQ segments bytes) with
      receive := .completed bytes.length
      received := state.received ++ bytes } skipped := by
  obtain ⟨none, closed⟩ := echoing.settled (by simp [posted])
  have taken := echoing.taken
  simp only [SessionState.held, posted] at taken
  refine ⟨receiving, ⟨echoing.accounted.sound, echoing.accounted.ledger⟩, taken,
    fun thread pending => absurd (none thread) pending, fun some => .inl (closed some), ?_⟩
  intro thread payload at_pc
  have quiet := none thread
  simp only [modify] at at_pc
  rw [at_pc] at quiet
  cases quiet

variable [DecidableEq Thread]

-- The session while a thread executes a statement of the send path.
def ran (state : SessionState Thread) (thread : Thread) (accepted : Bool) (garbage : Nat) :
    SessionState Thread :=
  { state with send := state.send.run thread accepted garbage }

theorem ran_enqueued (quiet : (state.send.threads thread).pending = none) (accepted : Bool)
    (garbage : Nat) : (ran state thread accepted garbage).send.enqueued = state.send.enqueued := by
  cases at_pc : state.send.threads thread with
  | checkValid payload => simp [at_pc, SendPc.pending] at quiet
  | enqueue payload => simp [at_pc, SendPc.pending] at quiet
  | _ => simp [ran, SendState.run, at_pc]

theorem ran_valid (state : SessionState Thread) (thread : Thread) (accepted : Bool) (garbage : Nat) :
    (ran state thread accepted garbage).session.valid =
      (state.session.valid && state.send.threads thread ≠ .disconnect) :=
  SendPc.turn_valid _ _ _ _

theorem runQuiet (echoing : Echoing env state skipped)
    (quiet : (state.send.threads thread).pending = none) (accepted : Bool) (garbage : Nat) :
    Echoing env (ran state thread accepted garbage) skipped := by
  have quietNext := SendPc.turn_pending quiet state.send.session accepted garbage
  have still := run_still state thread accepted garbage
  refine ⟨echoing.receiving.still still, echoing.accounted.run thread accepted garbage, ?_, ?_, ?_, ?_⟩
  · have held : (ran state thread accepted garbage).held = state.held := by
      simp only [SessionState.held, ran]
      split
      · rfl
      · next other _ =>
        by_cases same : other = thread
        · subst same
          simp [SendState.run, quiet, quietNext]
        · simp [SendState.run, same]
      · rfl
    rw [held, ran_enqueued quiet]
    exact echoing.taken
  · intro other pending
    by_cases same : other = thread
    · subst same
      simp [ran, SendState.run, quietNext] at pending
    · exact echoing.callers other (by simpa [ran, SendState.run, same] using pending)
  · intro some
    rcases echoing.closed some with invalid | ⟨other, handled, leaving⟩
    · exact .inl ((ran_valid state thread accepted garbage).trans (by simp [invalid]))
    · by_cases same : other = thread
      · subst same
        exact .inl ((ran_valid state other accepted garbage).trans (by simp [leaving]))
      · exact .inr ⟨other, handled, by simpa [ran, SendState.run, same] using leaving⟩
  · intro other payload at_pc
    by_cases same : other = thread
    · subst same
      have next : (SendPc.enqueue payload).pending = none := by
        rw [← quietNext, ← at_pc]
        simp [ran, SendState.run]
      cases next
    · exact echoing.first other payload (by simpa [ran, SendState.run, same] using at_pc)

theorem runPending (echoing : Echoing env state skipped) {bytes : List UInt8}
    (pending : (state.send.threads thread).pending = some bytes) (accepted : Bool) (garbage : Nat)
    (given : List (List UInt8))
    (answered : (ran state thread accepted garbage).send.enqueued ++ given ++
        ((ran state thread accepted garbage).send.threads thread).pending.toList =
      state.send.enqueued ++ skipped ++ [bytes])
    (closed : given ≠ [] → (ran state thread accepted garbage).session.valid = false ∨
      (ran state thread accepted garbage).send.threads thread = .disconnect)
    (first : ∀ payload, (ran state thread accepted garbage).send.threads thread =
      .enqueue payload → given = []) :
    Echoing env (ran state thread accepted garbage) given := by
  have handled := echoing.callers thread (by simp [pending])
  -- No other thread has a payload.
  have others (other : Thread) (differs : other ≠ thread) :
      ((ran state thread accepted garbage).send.threads other).pending = none := by
    by_contra busy
    have again := echoing.callers other (by simpa [ran, SendState.run, differs] using busy)
    rw [handled] at again
    cases again
    exact differs rfl
  refine ⟨echoing.receiving.still (run_still state thread accepted garbage),
    echoing.accounted.run thread accepted garbage, ?_, ?_, ?_, ?_⟩
  · have before : state.held = [bytes] := by
      simp [SessionState.held, handled, pending]
    have after : (ran state thread accepted garbage).held =
        ((ran state thread accepted garbage).send.threads thread).pending.toList := by
      simp only [SessionState.held, ran, handled]
    rw [after, answered, ← before]
    exact echoing.taken
  · intro other busy
    by_cases same : other = thread
    · subst same
      exact handled
    · exact absurd (others other same) busy
  · intro some
    exact (closed some).imp_right fun leaving => ⟨thread, handled, leaving⟩
  · intro other payload at_pc
    by_cases same : other = thread
    · subst same
      exact first payload at_pc
    · have quiet := others other same
      rw [at_pc] at quiet
      cases quiet

theorem runCheckValid (echoing : Echoing env state skipped) {payload : Payload}
    (at_pc : state.send.threads thread = .checkValid payload) (accepted : Bool) (garbage : Nat) :
    ∃ more, Echoing env (ran state thread accepted garbage) (skipped ++ more) := by
  have handled := echoing.callers thread (by simp [at_pc, SendPc.pending])
  have pending : (state.send.threads thread).pending = some payload.bytes := by
    simp [at_pc, SendPc.pending]
  have enqueued : (ran state thread accepted garbage).send.enqueued = state.send.enqueued := by
    simp [ran, SendState.run, at_pc]
  cases valid : state.session.valid with
  | true =>
    have none : skipped = [] := by
      by_contra some
      rcases echoing.closed some with invalid | ⟨other, again, leaving⟩
      · rw [valid] at invalid
        cases invalid
      · rw [handled] at again
        cases again
        rw [at_pc] at leaving
        cases leaving
    subst none
    have next : (ran state thread accepted garbage).send.threads thread = .enqueue payload := by
      have valid : state.send.session.valid = true := valid
      simp [ran, SendState.run, at_pc, SendPc.turn, valid]
    refine ⟨[], echoing.runPending pending accepted garbage [] ?_ ?_ ?_⟩
    · rw [enqueued, next]
      simp [SendPc.pending]
    · simp
    · simp
  | false =>
    have next : (ran state thread accepted garbage).send.threads thread = .idle := by
      have invalid : state.send.session.valid = false := valid
      simp [ran, SendState.run, at_pc, SendPc.turn, invalid]
    refine ⟨[payload.bytes], echoing.runPending pending accepted garbage _ ?_ ?_ ?_⟩
    · rw [enqueued, next]
      simp [SendPc.pending]
    · intro _
      exact .inl ((ran_valid state thread accepted garbage).trans (by simp [valid]))
    · intro other at_enqueue
      rw [next] at at_enqueue
      cases at_enqueue

theorem runEnqueue (echoing : Echoing env state skipped) {payload : Payload}
    (at_pc : state.send.threads thread = .enqueue payload) (accepted : Bool) (garbage : Nat) :
    ∃ given, Echoing env (ran state thread accepted garbage) given ∧
      ((state.session.sendQ.enqueue payload.data payload.size).2.returned ≠ payload.size →
        given ≠ [] ∧ (ran state thread accepted garbage).send.enqueued = state.send.enqueued) := by
  have none := echoing.first thread payload at_pc
  subst none
  have pending : (state.send.threads thread).pending = some payload.bytes := by
    simp [at_pc, SendPc.pending]
  by_cases taken :
      (state.session.sendQ.enqueue payload.data payload.size).2.returned = payload.size
  · have next : (ran state thread accepted garbage).send.threads thread = .postValid := by
      simp only [session] at taken
      simp [ran, SendState.run, at_pc, SendPc.turn, taken]
    have enqueued : (ran state thread accepted garbage).send.enqueued =
        state.send.enqueued ++ [payload.bytes] := by
      simp only [session] at taken
      simp [ran, SendState.run, at_pc, taken]
    refine ⟨[], echoing.runPending pending accepted garbage [] ?_ (by simp) (by simp),
      fun refused => absurd taken refused⟩
    rw [enqueued, next]
    simp [SendPc.pending]
  · have next : (ran state thread accepted garbage).send.threads thread = .disconnect := by
      simp only [session] at taken
      simp [ran, SendState.run, at_pc, SendPc.turn, taken]
    have enqueued : (ran state thread accepted garbage).send.enqueued = state.send.enqueued := by
      simp only [session] at taken
      simp [ran, SendState.run, at_pc, taken]
    refine ⟨[payload.bytes], echoing.runPending pending accepted garbage _ ?_ ?_ ?_,
      fun _ => ⟨by simp, enqueued⟩⟩
    · rw [enqueued, next]
      simp [SendPc.pending]
    · exact fun _ => .inr next
    · intro other at_enqueue
      rw [next] at at_enqueue
      cases at_enqueue

theorem run (echoing : Echoing env state skipped) (thread : Thread) (accepted : Bool)
    (garbage : Nat) :
    ∃ given, Echoing env (ran state thread accepted garbage) given ∧ (skipped ≠ [] →
      given ≠ [] ∧ (ran state thread accepted garbage).send.enqueued = state.send.enqueued) := by
  cases at_pc : state.send.threads thread with
  | checkValid payload =>
    obtain ⟨more, kept⟩ := echoing.runCheckValid at_pc accepted garbage
    refine ⟨_, kept, fun some => ⟨by simp [some], ?_⟩⟩
    simp [ran, SendState.run, at_pc]
  | enqueue payload =>
    obtain ⟨given, kept, _⟩ := echoing.runEnqueue at_pc accepted garbage
    exact ⟨given, kept, fun some => absurd (echoing.first thread payload at_pc) some⟩
  | _ =>
    have quiet : (state.send.threads thread).pending = none := by simp [at_pc, SendPc.pending]
    exact ⟨skipped, echoing.runQuiet quiet accepted garbage,
      fun some => ⟨some, ran_enqueued quiet accepted garbage⟩⟩

theorem statement (echoing : Echoing env state skipped) (mode : env.architectureType = .echoTest)
    {pc : ReceivePc} (handled : state.receive = .handled thread pc)
    (idle : state.send.threads thread = .idle) (accepted : Bool) :
    Echoing env (state.receiveTurn env thread accepted pc) skipped := by
  have receiving := echoing.receiving.statement handled idle accepted
  have alone (other : Thread) (parsing : state.receive = .handled other .parse) :
      state.send.threads other = .idle := by
    rw [handled] at parsing
    cases parsing
    exact idle
  have same := (Function.update_eq_self thread state.send.threads).symm
  have quiet : (state.send.threads thread).pending = none := by simp [idle, SendPc.pending]
  cases pc with
  | moveWritePtr size =>
    obtain ⟨_, phase⟩ := echoing.receiving
    rw [handled] at phase
    have moved := (phase.2.moves phase.1).1
    simp only [receiveTurn, moved, ne_eq, not_true, if_false] at receiving ⊢
    refine echoing.advance alone receiving rfl rfl rfl ?_ _ same (.inl quiet) id
    simp [SessionState.held, handled, modify, idle, SendPc.pending]
  | parse =>
    simp only [receiveTurn] at receiving ⊢
    split
    · next turned =>
      simp only [turned] at receiving
      refine echoing.advance alone receiving rfl rfl rfl ?_ _ same (.inl quiet) id
      simp [SessionState.held, handled, idle, SendPc.pending]
    · next turned =>
      simp only [turned] at receiving
      refine echoing.advance alone receiving rfl rfl rfl ?_ .disconnect rfl (.inl rfl) id
      simp [SessionState.held, handled, idle, SendPc.pending, enter]
    · next rest bytes turned =>
      simp only [turned] at receiving
      refine echoing.advance alone receiving rfl rfl rfl ?_ _ same (.inl quiet) id
      simp [SessionState.held, handled, idle, SendPc.pending]
  | deliver bytes =>
    obtain ⟨_, phase⟩ := echoing.receiving
    rw [handled] at phase
    have read := Payload.ofBytes_bytes phase.1
    simp only [receiveTurn, mode] at receiving ⊢
    refine echoing.advance alone receiving rfl rfl rfl ?_ _ rfl (.inr ⟨rfl, _, rfl⟩) id
    simp [SessionState.held, handled, enter, SendState.enter, SendPc.pending, read]
  | postRecv =>
    simp only [receiveTurn] at receiving ⊢
    refine echoing.advance alone receiving rfl rfl rfl ?_ _ same (.inl quiet) id
    cases valid : state.session.valid <;> simp [SessionState.held, handled]
  | wsaRecv =>
    simp only [receiveTurn] at receiving ⊢
    split
    · next refused =>
      simp only [refused, if_true] at receiving
      refine echoing.advance alone receiving rfl rfl rfl ?_ .disconnect rfl (.inl rfl) id
      simp [SessionState.held, handled, enter, modify]
    · next posted =>
      simp only [posted] at receiving
      refine echoing.advance alone receiving rfl rfl rfl ?_ _ same (.inl quiet) id
      simp [SessionState.held, handled, modify]

theorem dispatch_eq (quiet : (state.send.threads thread).pending = none) (size : Nat) :
    ∃ pc receive, state.dispatch thread size = { state.enter thread pc with receive := receive } ∧
      pc.pending = none ∧ (receive = .ended ∨ receive = .handled thread (.moveWritePtr size)) := by
  have stays (receive : Receive Thread) : { state with receive := receive } =
      { state.enter thread (state.send.threads thread) with receive := receive } := by
    simp [enter, SendState.enter]
  simp only [SessionState.dispatch]
  split
  · exact ⟨.disconnect, .ended, rfl, rfl, .inl rfl⟩
  split
  · exact ⟨_, .ended, stays _, quiet, .inl rfl⟩
  split
  · exact ⟨_, .ended, stays _, quiet, .inl rfl⟩
  split
  · exact ⟨_, .handled thread (.moveWritePtr size), stays _, quiet, .inr rfl⟩
  · exact ⟨.sentValid size, .ended, rfl, rfl, .inl rfl⟩
  · exact ⟨_, .ended, stays _, quiet, .inl rfl⟩

theorem dispatch (echoing : Echoing env state skipped) {size : Nat}
    (completed : state.receive = .completed size) :
    Echoing env (state.dispatch thread size) skipped := by
  have receiving : Receiving env (state.dispatch thread size) :=
    echoing.receiving.dispatch completed
  have alone (other : Thread) (parsing : state.receive = .handled other .parse) :
      state.send.threads other = .idle := by
    rw [completed] at parsing
    cases parsing
  have quiet := (echoing.settled alone).1 thread
  obtain ⟨pc, receive, same, next, left⟩ := dispatch_eq quiet size
  rw [same] at receiving ⊢
  refine echoing.advance alone receiving rfl rfl rfl ?_ pc rfl (.inl next) id
  rcases left with rfl | rfl <;> simp [SessionState.held, completed, enter]

theorem moves (echoing : Echoing env state skipped) (mode : env.architectureType = .echoTest)
    (moves : Moves env state next) :
    ∃ given, Echoing env next given ∧ (skipped ≠ [] →
      given ≠ [] ∧ next.send.enqueued = state.send.enqueued) := by
  have receiving := echoing.receiving.moves moves
  cases moves with
  | call thread payload free echo => exact absurd mode echo
  | run thread accepted garbage => exact echoing.run thread accepted garbage
  | sent thread position size bytes free =>
    refine ⟨skipped, echoing.elsewhere receiving rfl rfl rfl rfl rfl ?_ id, fun some => ⟨some, rfl⟩⟩
    intro other
    by_cases same : other = thread
    · subst same
      exact .inr ⟨free_idle free, by simp [SendState.enter, SendPc.pending]⟩
    · exact .inl (by simp [SendState.enter, same])
  | receive segments bytes posted fits memory =>
    exact ⟨skipped, echoing.receive posted receiving, fun some => ⟨some, rfl⟩⟩
  | worker thread size completed free =>
    exact ⟨skipped, echoing.dispatch completed, fun some => ⟨some, dispatch_enqueued _ _ _⟩⟩
  | statement thread pc accepted handled idle =>
    exact ⟨skipped, echoing.statement mode handled idle accepted,
      fun some => ⟨some, receiveTurn_enqueued _ _ _ _⟩⟩
  | invalidate =>
    exact ⟨skipped, echoing.elsewhere receiving rfl rfl rfl rfl rfl (fun _ => .inl rfl)
      (fun _ => rfl), fun some => ⟨some, rfl⟩⟩
  | clearSending invalid =>
    exact ⟨skipped, echoing.elsewhere receiving rfl rfl rfl rfl rfl (fun _ => .inl rfl) id,
      fun some => ⟨some, rfl⟩⟩

theorem ends (echoing : Echoing env state skipped) (mode : env.architectureType = .echoTest)
    (some : skipped ≠ []) {later : SessionState Thread}
    (reached : Reachable (step env) Always state later) :
    later.send.enqueued = state.send.enqueued ∧ ∃ given, given ≠ [] ∧ Echoing env later given := by
  induction reached with
  | start => exact ⟨rfl, skipped, some, echoing⟩
  | step _ _ taken ih =>
    obtain ⟨same, given, some, kept⟩ := ih
    obtain ⟨more, after, ended⟩ := kept.moves mode (step_moves taken)
    obtain ⟨grown, still⟩ := ended some
    exact ⟨still.trans same, more, grown, after⟩

omit [DecidableEq Thread] in
theorem posted (echoing : Echoing env state skipped) {segments : List Segment}
    (waiting : state.receive = .posted segments) :
    (env.framer.parse state.received).ending ≠ .rejected ∧
      (env.framer.parse state.received).frames = state.send.enqueued ++ skipped ∧
      (skipped ≠ [] → state.session.valid = false) := by
  obtain ⟨_, phase⟩ := echoing.receiving
  rw [waiting] at phase
  obtain ⟨_, _, waits, streams⟩ := phase
  have taken := echoing.taken
  simp only [SessionState.held, waiting, List.append_nil] at taken
  rw [streams, parse_wait waits, taken]
  exact ⟨by simp [Parse.after], by simp [Parse.after], (echoing.settled (by simp [waiting])).2⟩

end Echoing

variable [DecidableEq Thread] {state : SessionState Thread}
  {recvMemory sendMemory : Option (Nat → UInt8)} {sessionId : SessionId} {socket : Socket}
  {acceptThread : Thread}

omit [DecidableEq Thread] in
theorem start_echoing :
    Echoing env (start recvMemory sendMemory sessionId socket acceptThread) [] := by
  have cleared := (new_default sendMemory).clear
  have accounted : SendState.Accounted
      (start recvMemory sendMemory sessionId socket acceptThread).send :=
    ⟨cleared.clear.sound, cleared.sound.clear_spec.2⟩
  exact ⟨start_receiving, accounted, rfl, fun _ pending => absurd rfl pending,
    fun some => absurd rfl some, fun _ _ _ => rfl⟩

theorem reachable_echoing (mode : env.architectureType = .echoTest)
    (reached : Reachable (step env) Always
      (start recvMemory sendMemory sessionId socket acceptThread) state) :
    ∃ skipped, Echoing env state skipped := by
  induction reached with
  | start => exact ⟨[], start_echoing⟩
  | step _ _ taken ih =>
    obtain ⟨skipped, echoing⟩ := ih
    obtain ⟨given, kept, _⟩ := echoing.moves mode (step_moves taken)
    exact ⟨given, kept⟩

omit [DecidableEq Thread] in
theorem Echoing.enqueued_prefix {skipped : List (List UInt8)}
    (echoing : Echoing env state skipped) :
    state.send.enqueued <+: (env.framer.parse state.received).frames := by
  obtain ⟨rest, streams⟩ := echoing.receiving.streams
  rw [streams, echoing.taken]
  simp only [Parse.after, List.append_assoc]
  exact List.prefix_append _ _

/-- What the echo is measured against: a frame is its header and as many bytes as that announces. -/
theorem framer_echo (mode : env.architectureType = .echoTest) (bytes : List UInt8) :
    env.framer.classify bytes =
      if bytes.length < env.header.sizeofMsgHeader then .wait
      else if 65535 < headerSize bytes + env.header.sizeofMsgHeader then .reject
      else if bytes.length < headerSize bytes + env.header.sizeofMsgHeader then .wait
      else .frame (headerSize bytes + env.header.sizeofMsgHeader) := by
  have above : ¬ headerSize bytes + env.header.sizeofMsgHeader < env.header.sizeofMsgHeader := by
    omega
  simp only [Environment.framer, announce, Environment.announced, mode, above, false_or]

theorem framer_echo_reject (mode : env.architectureType = .echoTest) (bytes : List UInt8) :
    env.framer.classify bytes = .reject ↔ env.header.sizeofMsgHeader ≤ bytes.length ∧
      65535 < headerSize bytes + env.header.sizeofMsgHeader := by
  rw [framer_echo mode]
  split
  · next short => simp [short]
  split
  · next above => simp [above]; omega
  split
  · simp; omega
  · simp; omega

theorem framer_echo_frame (mode : env.architectureType = .echoTest) {bytes : List UInt8}
    {length : Nat} (verdict : env.framer.classify bytes = .frame length) :
    (bytes.take length).length = headerSize (bytes.take length) + env.header.sizeofMsgHeader ∧
      (bytes.take length).length ≤ 65535 := by
  have whole := env.header.holdsSize
  have fits := (env.framer.fits verdict).2
  rw [framer_echo mode] at verdict
  split at verdict
  · cases verdict
  split at verdict
  · cases verdict
  split at verdict
  · cases verdict
  · cases verdict
    rw [headerSize_take (by omega), List.length_take, Nat.min_eq_left fits]
    omega

/-- An echo session sends back whole frames in the order of the stream: all of them while it is
connected, and none behind one that it gave up. -/
theorem echo_stream (mode : env.architectureType = .echoTest)
    (reached : Reachable (step env) Always
      (start recvMemory sendMemory sessionId socket acceptThread) state) :
    (∀ bytes, env.framer.classify bytes = .reject ↔ env.header.sizeofMsgHeader ≤ bytes.length ∧
        65535 < headerSize bytes + env.header.sizeofMsgHeader) ∧
      (∀ frame ∈ (env.framer.parse state.received).frames,
        frame.length = headerSize frame + env.header.sizeofMsgHeader ∧ frame.length ≤ 65535) ∧
      state.send.acknowledged ++ state.session.sendQ.contents = state.send.enqueued.flatten ∧
      state.send.enqueued <+: (env.framer.parse state.received).frames ∧
      state.send.enqueued.flatten <+: state.received ∧
      (∀ segments, state.receive = .posted segments →
        (env.framer.parse state.received).ending ≠ .rejected ∧ (state.session.valid = true →
          state.send.enqueued = (env.framer.parse state.received).frames)) ∧
      (∀ thread, state.receive = .handled thread .postRecv →
        (env.framer.parse state.received).ending = .rejected → state.Leaves thread) ∧
      (state.receive = .ended → ∃ thread, state.Leaves thread) ∧
      ∀ thread payload, state.send.threads thread = .enqueue payload →
        (state.session.sendQ.enqueue payload.data payload.size).2.returned ≠ payload.size →
        ∀ accepted garbage later,
          Reachable (step env) Always (Echoing.ran state thread accepted garbage) later →
          later.send.enqueued = state.send.enqueued ∧
            ∀ segments, later.receive = .posted segments → later.session.valid = false := by
  obtain ⟨skipped, echoing⟩ := reachable_echoing mode reached
  have echoed := echoing.enqueued_prefix
  refine ⟨framer_echo_reject mode, ?_, echoing.accounted.ledger, echoed, ?_, ?_, ?_, ?_, ?_⟩
  · exact parse_frames (fun bytes length => framer_echo_frame mode) state.received
  · have whole : (env.framer.parse state.received).frames.flatten <+: state.received :=
      parse_flatten state.received
    exact echoed.flatten.trans whole
  · intro segments waiting
    obtain ⟨accepted, frames, closed⟩ := echoing.posted waiting
    refine ⟨accepted, fun valid => ?_⟩
    have none : skipped = [] := by
      by_contra some
      rw [closed some] at valid
      cases valid
    rw [frames, none, List.append_nil]
  · intro thread handled rejected
    obtain ⟨_, phase⟩ := echoing.receiving
    rw [handled] at phase
    obtain ⟨streams, waits | ⟨_, leaves⟩⟩ := phase
    · rw [streams, parse_wait waits] at rejected
      cases rejected
    · exact leaves
  · intro ended
    obtain ⟨_, phase⟩ := echoing.receiving
    rw [ended] at phase
    exact phase.2
  · intro thread payload at_pc refused accepted garbage later reached
    obtain ⟨given, kept, ended⟩ := echoing.runEnqueue at_pc accepted garbage
    obtain ⟨some, same⟩ := ended refused
    obtain ⟨still, more, grown, after⟩ := kept.ends mode some reached
    exact ⟨still.trans same, fun segments waiting => (after.posted waiting).2.2 grown⟩

-- A frame of three bytes and the first byte of the next one have arrived.
theorem echo_stream_one_frame :
    ∃ state : SessionState (Fin 2), state.receive = .posted [⟨4, 65532⟩, ⟨0, 2⟩] ∧
      state.received = [1, 0, 9, 2] ∧ state.send.enqueued = [[1, 0, 9]] ∧
      (echoServer.framer.parse [1, 0, 9, 2]).frames = [[1, 0, 9]] := by
  obtain ⟨state, reached, seen⟩ := Reachable.observe (step echoServer)
    (start (some fun _ => 0) (some fun _ => 0) 1 1 0 : SessionState (Fin 2))
    ([.statement true, .statement true, .receive [1, 0, 9, 2], .worker 1] ++
      List.replicate 3 (.statement true) ++ List.replicate 6 (.run 1 true 0) ++
      List.replicate 3 (.statement true))
    (fun state => state.receive = .posted [⟨4, 65532⟩, ⟨0, 2⟩] ∧ state.received = [1, 0, 9, 2] ∧
      state.send.enqueued = [[1, 0, 9]] ∧ state.session.valid = true)
    (by decide +kernel)
  obtain ⟨posted, received, enqueued, valid⟩ := of_decide_eq_true seen
  have echoed := ((echo_stream rfl reached).2.2.2.2.2.1 _ posted).2 valid
  rw [received, enqueued] at echoed
  exact ⟨state, posted, received, enqueued, echoed.symm⟩

end SessionState

end MiniGames
