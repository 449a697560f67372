import MiniGames.Network.SendThreads
import MiniGames.Shared.Runs

set_option autoImplicit false

namespace MiniGames.SendState

open Circular CRingBufferT Runs Token
open Server (sendBuffers)

variable {Thread : Type} [DecidableEq Thread]

namespace Intact

variable {state : SendState Thread} {placement : Placement Thread} {thread : Thread}

theorem run (intact : Intact state placement) (valid : state.session.valid = true)
    (accepted : Bool) (garbage : Nat) :
    ∃ after, Intact (state.run thread accepted garbage) after := by
  have idle (outside : (state.threads thread).owns = false) {pc : SendPc} (still : pc.owns = false)
      {session : CSession} (same : session.sending = state.session.sending)
      (ring : session.sendQ = state.session.sendQ) :
      Intact { state with
        session := session
        threads := Function.update state.threads thread pc } placement := by
    have grown : Grown state.session.sendQ session.sendQ ([] : List (List UInt8)).flatten := by
      rw [ring]; exact .refl intact.sound
    simpa using intact.bystander [] outside still same grown
  have holder (owned : (state.threads thread).owns = true) : Intact state (.held thread) :=
    intact.placed.holder thread owned ▸ intact
  have narrow : state.session.sendQ.capacity ≤ 2 ^ 32 := by rw [intact.capacity]; decide
  -- The buffers of a snapshot are never empty, so only Winsock decides what a WSASend does.
  have posted {info : SendInfo} (covers : Covers state.session.sendQ info) :
      InFlight state.session.sendQ
        ⟨sendBuffers info, gather state.session.sendQ.memory (sendBuffers info)⟩ := by
    refine ⟨info.dataSize, covers.some, covers.stored, covers.buffers, ?_⟩
    rw [covers.buffers, gather_posted intact.sound covers.stored]
  cases at_pc : state.threads thread with
  | idle =>
    have kept := idle (by rw [at_pc]; rfl) (show SendPc.idle.owns = false from rfl) rfl rfl
    exact ⟨placement, by simpa [SendState.run, at_pc, SendPc.turn] using kept⟩
  | checkValid payload =>
    have still : (if state.session.valid then SendPc.enqueue payload else .idle).owns = false := by
      split <;> rfl
    have kept := idle (by rw [at_pc]; rfl) still rfl rfl
    exact ⟨placement, by simpa [SendState.run, at_pc, SendPc.turn] using kept⟩
  | enqueue payload =>
    obtain ⟨sound, capacity, readPos, contents⟩ :=
      intact.sound.enqueue_payload payload
    let enqueued := state.session.sendQ.enqueue payload.data payload.size
    let payloads := if enqueued.2.returned = payload.size then [payload.bytes] else []
    have still : (if enqueued.2.returned ≠ payload.size then SendPc.disconnect
        else .postValid).owns = false := by
      split <;> rfl
    have grown : Grown state.session.sendQ enqueued.1 payloads.flatten := by
      refine ⟨sound, capacity, readPos, contents.trans ?_⟩
      simp only [payloads, enqueued]
      split <;> simp
    have kept := intact.bystander payloads (by rw [at_pc]; rfl) still
      (show (state.session.storeSendQ enqueued.1).sending = _ from rfl) grown
    exact ⟨placement, by simpa [SendState.run, at_pc, SendPc.turn] using kept⟩
  | postValid =>
    have still : (if state.session.valid then SendPc.exchange else .idle).owns = false := by
      split <;> rfl
    have kept := idle (by rw [at_pc]; rfl) still rfl rfl
    exact ⟨placement, by simpa [SendState.run, at_pc, SendPc.turn] using kept⟩
  | exchange =>
    cases sending : state.session.sending with
    | true =>
      have kept := idle (by rw [at_pc]; rfl) (show SendPc.idle.owns = false from rfl)
        (show (state.session.storeSending true).sending = _ from sending.symm) rfl
      exact ⟨placement, by simpa [SendState.run, at_pc, SendPc.turn, sending] using kept⟩
    | false =>
      have free : placement = .free := by
        have flag := intact.flag
        simpa [sending] using flag
      subst free
      have taken := intact.acquire thread (show SendPc.getSendInfo.owns = true from rfl) trivial rfl
      exact ⟨.held thread, by simpa [SendState.run, at_pc, SendPc.turn, sending] using taken⟩
  | getSendInfo =>
    have held := holder (by rw [at_pc]; rfl)
    refine ⟨.held thread, ?_⟩
    by_cases empty : state.session.sendQ.getDataSize = 0
    · have kept := held.proceed (show SendPc.releaseEarly.owns = true from rfl) rfl rfl trivial
        (by rw [at_pc]; rfl)
      simpa [SendState.run, at_pc, SendPc.turn, CRingBufferT.getSendInfo, empty] using kept
    · have covers := getSendInfo_covers intact.sound narrow (by omega)
      have kept := held.proceed (show (SendPc.wsaSend _).owns = true from rfl) rfl rfl covers
        (by rw [at_pc]; rfl)
      simpa [SendState.run, at_pc, SendPc.turn, CRingBufferT.getSendInfo, empty] using kept
  | releaseEarly =>
    have held := holder (by rw [at_pc]; rfl)
    have freed := held.release (show SendPc.idle.owns = false from rfl) (by rw [at_pc]; rfl)
    exact ⟨.free, by simpa [SendState.run, at_pc, SendPc.turn] using freed⟩
  | wsaSend info =>
    have held := holder (by rw [at_pc]; rfl)
    have covers : Covers state.session.sendQ info := by
      have rely := held.ready thread rfl
      rwa [at_pc] at rely
    have some := covers.isEmpty
    have lengths := covers.lengths intact.sound garbage
    cases accepted with
    | true =>
      have given := held.launch (show SendPc.idle.owns = false from rfl) (by rw [at_pc]; rfl)
        (show state.session.armSend.sending = _ from rfl) rfl (posted covers)
      exact ⟨.pending, by simpa [SendState.run, at_pc, SendPc.turn, some, lengths] using given⟩
    | false =>
      have kept := held.proceed (show SendPc.releaseFailed.owns = true from rfl)
        (show state.session.armSend.sending = _ from rfl) rfl trivial (by rw [at_pc]; rfl)
      exact ⟨.held thread, by simpa [SendState.run, at_pc, SendPc.turn, some, lengths] using kept⟩
  | sentValid size =>
    have held := holder (by rw [at_pc]; rfl)
    have rely := held.ready thread rfl
    rw [at_pc] at rely
    have kept := held.proceed (show (SendPc.consume size).owns = true from rfl) rfl rfl rely
      (by rw [at_pc]; rfl)
    exact ⟨.held thread, by simpa [SendState.run, at_pc, SendPc.turn, valid] using kept⟩
  | consume size =>
    have held := holder (by rw [at_pc]; rfl)
    obtain ⟨consumed, kept⟩ := held.consume at_pc
    exact ⟨.held thread, by simpa [SendState.run, at_pc, SendPc.turn, consumed] using kept⟩
  | getRest =>
    have held := holder (by rw [at_pc]; rfl)
    refine ⟨.held thread, ?_⟩
    by_cases empty : state.session.sendQ.getDataSize = 0
    · have kept := held.proceed (show SendPc.releaseSent.owns = true from rfl) rfl rfl trivial
        (by rw [at_pc]; rfl)
      simpa [SendState.run, at_pc, SendPc.turn, CRingBufferT.getSendInfo, empty] using kept
    · have covers := getSendInfo_covers intact.sound narrow (by omega)
      have kept := held.proceed (show (SendPc.wsaSendRest _).owns = true from rfl) rfl rfl covers
        (by rw [at_pc]; rfl)
      simpa [SendState.run, at_pc, SendPc.turn, CRingBufferT.getSendInfo,
        Nat.pos_of_ne_zero empty] using kept
  | wsaSendRest info =>
    have held := holder (by rw [at_pc]; rfl)
    have covers : Covers state.session.sendQ info := by
      have rely := held.ready thread rfl
      rwa [at_pc] at rely
    have some := covers.isEmpty
    cases accepted with
    | true =>
      have given := held.launch (show SendPc.idle.owns = false from rfl) (by rw [at_pc]; rfl)
        (show state.session.armSend.sending = _ from rfl) rfl (posted covers)
      exact ⟨.pending, by simpa [SendState.run, at_pc, SendPc.turn, some] using given⟩
    | false =>
      have kept := held.proceed (show SendPc.releaseFailed.owns = true from rfl)
        (show state.session.armSend.sending = _ from rfl) rfl trivial (by rw [at_pc]; rfl)
      exact ⟨.held thread, by simpa [SendState.run, at_pc, SendPc.turn, some] using kept⟩
  | releaseSent =>
    have held := holder (by rw [at_pc]; rfl)
    have freed := held.release (show SendPc.recheck.owns = false from rfl) (by rw [at_pc]; rfl)
    exact ⟨.free, by simpa [SendState.run, at_pc, SendPc.turn] using freed⟩
  | recheck =>
    have still : (if state.session.sendQ.getDataSize > 0 then SendPc.postValid
        else .idle).owns = false := by
      split <;> rfl
    have kept := idle (by rw [at_pc]; rfl) still rfl rfl
    exact ⟨placement, by simpa [SendState.run, at_pc, SendPc.turn] using kept⟩
  | releaseFailed =>
    have held := holder (by rw [at_pc]; rfl)
    have freed := held.release (show SendPc.disconnect.owns = false from rfl) (by rw [at_pc]; rfl)
    exact ⟨.free, by simpa [SendState.run, at_pc, SendPc.turn] using freed⟩
  | disconnect =>
    have kept := idle (by rw [at_pc]; rfl) (show SendPc.idle.owns = false from rfl)
      (show (state.session.storeValid false).sending = _ from rfl) rfl
    exact ⟨placement, by simpa [SendState.run, at_pc, SendPc.turn] using kept⟩

theorem step (intact : Intact state placement) {action : SendAction Thread}
    {next : SendState Thread} (taken : state.step action = some next) :
    ∃ after, Intact next after := by
  simp only [SendState.step, Option.bind_eq_bind, Option.bind_eq_some_iff] at taken
  obtain ⟨_, valid, taken⟩ := taken
  replace valid : state.session.valid = true := by simpa [guard] using valid
  cases action with
  | call thread payload =>
    obtain ⟨_, idle, taken⟩ := Option.bind_eq_some_iff.mp taken
    cases taken
    have at_pc : state.threads thread = .idle := by simpa [guard] using idle
    have kept := intact.bystander [] (by rw [at_pc]; rfl)
      (show (SendPc.checkValid payload).owns = false from rfl) rfl (.refl intact.sound)
    exact ⟨placement, by simpa [enter] using kept⟩
  | run thread accepted garbage =>
    cases taken
    exact intact.run valid accepted garbage
  | complete thread position size =>
    obtain ⟨_, idle, taken⟩ := Option.bind_eq_some_iff.mp taken
    obtain ⟨request, found, taken⟩ := Option.bind_eq_some_iff.mp taken
    obtain ⟨_, bounds, taken⟩ := Option.bind_eq_some_iff.mp taken
    cases taken
    obtain ⟨some, fits⟩ : 0 < size ∧ size ≤ total request.segments := by
      simpa [guard] using bounds
    exact ⟨.held thread, intact.land found some fits⟩
  | invalidate =>
    cases taken
    exact ⟨placement, intact.sound, intact.capacity, intact.placed, intact.flag, intact.ledger,
      intact.ready, intact.sent, intact.inFlight⟩

end Intact

variable {recvMemory sendMemory : Option (Nat → UInt8)} {sessionId : SessionId} {socket : Socket}

omit [DecidableEq Thread] in
theorem start_intact :
    Intact (start recvMemory sendMemory sessionId socket : SendState Thread) .free := by
  have constructed := (new_sound sendMemory (show 0 < 65536 by decide) (by decide)).clear_spec.1
  obtain ⟨sound, empty⟩ := constructed.clear_spec
  exact {
    sound := sound
    capacity := by
      have capacity : ((new 65536 sendMemory).clear.clear).capacity = 65536 := by simp [new]
      exact capacity
    placed := ⟨rfl, fun _ => rfl⟩
    flag := by simp [start, CSession.initializeSession, CSession.storeSending,
      CSession.storeOverlapped, CSession.clearRecvQ, CSession.clearSendQ]
    ledger := empty
    ready := nofun
    sent := by simp [start, reported]
    inFlight := nofun }

theorem reachable_intact {state : SendState Thread}
    (reached : Reachable step Always (start recvMemory sendMemory sessionId socket) state) :
    ∃ placement, Intact state placement := by
  induction reached with
  | start => exact ⟨.free, start_intact⟩
  | step _ _ taken ih =>
    obtain ⟨placement, intact⟩ := ih
    exact intact.step taken

/-- At every moment of every run the socket has carried a prefix of what was enqueued, the rest is
still in the queue, and what a WSASend reads from is not written. -/
theorem send_stream_intact {state : SendState Thread}
    (reached : Reachable step Always (start recvMemory sendMemory sessionId socket) state) :
    state.outstanding.length ≤ 1 ∧
      state.acknowledged ++ state.session.sendQ.contents = state.enqueued.flatten ∧
      ((∀ thread, (state.threads thread).reported = 0) →
        state.transmitted = state.acknowledged) ∧
      (∀ thread, (state.threads thread).owns = true → state.transmitted = state.acknowledged ++
        state.session.sendQ.contents.take (state.threads thread).reported) ∧
      (∀ request ∈ state.outstanding,
        gather state.session.sendQ.memory request.segments = request.bytes ∧
          request.bytes <+: state.session.sendQ.contents) ∧
      ∀ thread size, state.threads thread = .consume size →
        (state.session.sendQ.consume size).2.returned = size := by
  obtain ⟨placement, intact⟩ := reachable_intact reached
  refine ⟨intact.placed.jobs_le_one, intact.ledger, ?_, ?_, ?_, ?_⟩
  · intro settled
    have none : reported state.threads placement = 0 := by
      cases placement <;> simp [reported, settled]
    simpa [none] using intact.sent
  · intro thread owned
    have held := intact.placed.holder thread owned
    simpa [held, reported] using intact.sent
  · intro request member
    obtain ⟨size, _, stored, segments, bytes⟩ := intact.inFlight request member
    rw [segments, bytes, gather_posted intact.sound stored]
    exact ⟨rfl, List.take_prefix _ _⟩
  · intro thread size at_pc
    have held := intact.placed.holder thread (by rw [at_pc]; rfl)
    subst held
    rw [(intact.consume at_pc).1]

-- A second thread enqueues behind a WSASend in flight, which then completes with one of its bytes.
theorem send_stream_intact_two_threads :
    ∃ state : SendState (Fin 2), state.enqueued = [[1, 2], [3]] ∧ state.transmitted = [1] ∧
      state.acknowledged = [1] ∧ state.outstanding.map (·.bytes) = [[2, 3]] ∧
      state.acknowledged ++ state.session.sendQ.contents = state.enqueued.flatten := by
  obtain ⟨state, reached, seen⟩ := Reachable.observe step
    (start none (some fun _ => 0) 1 1 : SendState (Fin 2))
    (.call 0 (.ofBytes [1, 2]) :: List.replicate 6 (.run 0 true 0) ++
      .call 1 (.ofBytes [3]) :: List.replicate 4 (.run 1 true 0) ++
      .complete 1 0 1 :: List.replicate 4 (.run 1 true 0))
    (fun state => state.enqueued = [[1, 2], [3]] ∧ state.transmitted = [1] ∧
      state.acknowledged = [1] ∧ state.outstanding.map (·.bytes) = [[2, 3]]) (by decide +kernel)
  obtain ⟨enqueued, transmitted, acknowledged, outstanding⟩ := of_decide_eq_true seen
  exact ⟨state, enqueued, transmitted, acknowledged, outstanding,
    (send_stream_intact reached).2.1⟩

end MiniGames.SendState
