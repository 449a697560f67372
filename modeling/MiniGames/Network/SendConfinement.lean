import MiniGames.Network.SessionRings
import MiniGames.Network.SingleReceive
import Mathlib.Data.Fintype.Option

set_option autoImplicit false

namespace MiniGames

open Circular Runs CRingBufferT

namespace CRingBufferT

variable {ring : CRingBufferT}

theorem Sound.clear_unstored (sound : ring.Sound) (cell : Nat) : ¬ ring.clear.Stored cell := by
  rintro ⟨k, bound, _⟩
  have empty := congrArg List.length sound.clear_spec.2
  rw [contents_length] at empty
  simp only [List.length_nil] at empty
  omega

theorem Sound.enqueue_stored (sound : ring.Sound) (payload : Payload) {cell : Nat}
    (stored : (ring.enqueue payload.data payload.size).1.Stored cell) :
    ring.Stored cell ∨ (ring.enqueue payload.data payload.size).2.returned ≠ 0 ∧
      ∃ segment ∈ ring.copySegments ring.writePos payload.size, segment.covers cell := by
  have small := sound.dataSize_lt
  have free := sound.freeSize_eq
  rcases sound.enqueue_cases payload with refused | ⟨length, positive, room, accepted⟩
  · rw [refused] at stored
    exact .inl stored
  · rw [accepted] at stored ⊢
    obtain ⟨_, grown, _⟩ := sound.enqueued_spec (by rw [length]; exact room)
    obtain ⟨k, bound, here⟩ := stored
    rw [grown, length] at bound
    replace here : wrap ring.capacity ring.readPos k = cell := here
    by_cases before : k < ring.getDataSize
    · exact .inl ⟨k, before, here⟩
    · refine .inr ⟨Nat.ne_of_gt positive, ?_⟩
      rw [sound.copySegments_eq sound.writeInside (by omega)]
      refine (split_covers sound.writeInside (by omega) cell).mpr ⟨k - ring.getDataSize, by omega, ?_⟩
      have after : ring.getDataSize + (k - ring.getDataSize) = k := by omega
      rw [sound.writePos_eq, wrap_add sound.readInside (by omega), after, here]

theorem Sound.consume_stored (sound : ring.Sound) {size cell : Nat}
    (stored : (ring.consume size).1.Stored cell) : ring.Stored cell := by
  have small := sound.dataSize_lt
  cases missing : ring.buffer with
  | none =>
    rw [consume_null_buffer size missing] at stored
    exact stored
  | some memory =>
    by_cases refused : size = 0 ∨ ring.getDataSize < size
    · rw [consume_refused size refused] at stored
      exact stored
    · have present : ring.buffer.isSome := by simp [missing]
      obtain ⟨_, shrunk, _⟩ := sound.drained_spec present (show size ≤ ring.getDataSize by omega)
      rw [sound.consume_accepted present (by omega) (by omega)] at stored
      obtain ⟨k, bound, here⟩ := stored
      rw [shrunk] at bound
      replace here : wrap ring.capacity (wrap ring.capacity ring.readPos size) k = cell := here
      rw [wrap_add sound.readInside (by omega)] at here
      exact ⟨size + k, by omega, here⟩

theorem snapshot_stored (sound : ring.Sound) (narrow : ring.capacity ≤ 2 ^ 32)
    (some : 0 < ring.getDataSize) {cell : Nat}
    (covered : ∃ segment ∈ Server.sendBuffers ring.getSendInfo, segment.covers cell) :
    ring.Stored cell := by
  have small := sound.dataSize_lt
  have covers := getSendInfo_covers sound narrow some
  rw [covers.buffers] at covered
  exact (split_covers sound.readInside (by have := covers.stored; omega) cell).mp covered

end CRingBufferT

-- `target` was made for the slot and names the session with that id.
def Names (index : Index) (target sessionId : SessionId) : Prop :=
  extractIndex target = index ∧ extractUniqueId sessionId = extractUniqueId target

/-- The payload bytes in these cells of a slot's `_sendQ` are for the session with that id. -/
def Meant (history : History) (index : Index) (sessionId : SessionId) (cells : Nat → Prop) : Prop :=
  ∀ cell, cells cell → ∀ target, history.origin index cell = some target →
    Names index target sessionId

def Covered (segments : List Segment) (cell : Nat) : Prop :=
  ∃ segment ∈ segments, segment.covers cell

theorem Meant.mono {history : History} {index : Index} {sessionId : SessionId}
    {cells fewer : Nat → Prop} (meant : Meant history index sessionId cells)
    (among : ∀ cell, fewer cell → cells cell) : Meant history index sessionId fewer :=
  fun cell member => meant cell (among cell member)

namespace Frame

-- Initialize has begun on the slot and has not cleared `_sendQ` yet.
def prepares (index : Index) : Frame → Bool
  | .initializeSession pc slot _ _ => slot = index ∧ pc ≠ .overlapped
  | _ => false

def renames (index : Index) : Frame → Bool
  | .initializeSession .sessionId slot _ _ => slot = index
  | _ => false

theorem not_prepares {frame : Frame} {index : Index} (other : frame.initializes index = false) :
    frame.prepares index = false := by
  cases frame with
  | initializeSession pc slot clientSocket sessionId =>
    simp only [initializes, decide_eq_false_iff_not] at other
    simp [prepares, other]
  | _ => rfl

theorem not_renames {frame : Frame} {index : Index} (other : frame.initializes index = false) :
    frame.renames index = false := by
  cases frame with
  | initializeSession pc slot clientSocket sessionId =>
    simp only [initializes, decide_eq_false_iff_not] at other
    cases pc <;> simp [renames, other]
  | _ => rfl

def Confined (server : Server) (history : History) : Frame → Prop
  | .send index target pc =>
      (∀ sessionId, target = some sessionId →
        Names index sessionId (server.sessions index).sessionId) ∧
      ∀ info, pc = .wsaSend info ∨ pc = .wsaSendRest info →
        Meant history index (server.sessions index).sessionId (Covered (Server.sendBuffers info))
  | _ => True

theorem record_origin (server : Server) (history : History) (index : Index)
    (target : Option SessionId) (pc : SendPc) (other : Index) (cell : Nat) :
    ((Frame.send index target pc).record server history).origin other cell =
        history.origin other cell ∨
      other = index ∧
        ((Frame.send index target pc).record server history).origin other cell = target := by
  cases pc with
  | enqueue payload =>
    simp only [record]
    split
    · exact .inl rfl
    · simp only
      split
      · next written => exact .inr ⟨written.1, rfl⟩
      · exact .inl rfl
  | _ => exact .inl rfl

theorem record_written {server : Server} (history : History) {index : Index}
    (target : Option SessionId) {payload : Payload} {cell : Nat}
    (accepted : ((server.sessions index).sendQ.enqueue payload.data payload.size).2.returned ≠ 0)
    (written : ∃ segment ∈ (server.sessions index).sendQ.copySegments
      (server.sessions index).sendQ.writePos payload.size, segment.covers cell) :
    ((Frame.send index target (.enqueue payload)).record server history).origin index cell =
      target := by
  simp [record, accepted, written]

theorem record_other_origin {server : Server} {history : History} {frame : Frame}
    (other : ∀ index, frame.sends index = false) :
    (frame.record server history).origin = history.origin := by
  cases frame with
  | send index target pc => simpa [sends] using other index
  | disconnect index pc cleared =>
    cases pc with
    | exchange =>
      simp only [record]
      split <;> rfl
    | _ => rfl
  | processAccept clientSocket =>
    simp only [record]
    split <;> rfl
  | _ => rfl

theorem record_idle {server : Server} {history : History} {index : Index}
    {target : Option SessionId} {pc : SendPc} (other : ∀ payload, pc ≠ .enqueue payload) :
    (Frame.send index target pc).record server history = history := by
  cases pc with
  | enqueue payload => exact absurd rfl (other payload)
  | _ => rfl

theorem resume_frames {index : Index} {target : Option SessionId} {pc : SendPc} {frame : Frame}
    (member : frame ∈ resume index target pc) :
    frame = startDisconnect index ∨ frame = .send index target pc := by
  cases pc <;> simp [resume] at member <;> simp [member]

theorem sendTurn_next (env : Environment) (server : Server) (index : Index) (pc : SendPc) :
    (sendTurn env server index pc).2 = (pc.turn (server.sessions index)
      ((server.sessions index).socket.isSome && env.accepts server.calls)
      (env.garbage server.calls)).next := by
  simp only [sendTurn]
  split <;> rfl

end Frame

theorem Meant.record {server : Server} {history : History} {index other : Index}
    {target : Option SessionId} {sessionId : SessionId} {cells : Nat → Prop} (pc : SendPc)
    (meant : Meant history other sessionId cells)
    (named : other = index → ∀ wanted, target = some wanted → Names other wanted sessionId) :
    Meant ((Frame.send index target pc).record server history) other sessionId cells := by
  intro cell member wanted origin
  rcases Frame.record_origin server history index target pc other cell with same | ⟨here, new⟩
  · exact meant cell member wanted (by rwa [same] at origin)
  · exact named here wanted (by rwa [new] at origin)

namespace SendPc

variable {session : CSession} {accepted : Bool} {garbage : Nat} {pc : SendPc}

theorem turn_snapshot {info : SendInfo}
    (next : (pc.turn session accepted garbage).next = .wsaSend info ∨
      (pc.turn session accepted garbage).next = .wsaSendRest info) :
    info = session.sendQ.getSendInfo ∧ 0 < session.sendQ.getDataSize ∧
      ∀ payload, pc ≠ .enqueue payload := by
  cases pc with
  | getSendInfo =>
    simp only [turn] at next
    split at next
    · simp at next
    · next some =>
      have stored : session.sendQ.getDataSize ≠ 0 := by simpa using some
      exact ⟨by simpa [eq_comm] using next, Nat.pos_of_ne_zero stored, by simp⟩
  | getRest =>
    simp only [turn] at next
    split at next
    · next some =>
      have stored : session.sendQ.getDataSize > 0 := by simpa using some
      exact ⟨by simpa [eq_comm] using next, stored, by simp⟩
    · simp at next
  | wsaSend info =>
    simp only [turn] at next
    split at next
    · simp at next
    · split at next <;> simp at next
  | wsaSendRest info =>
    simp only [turn] at next
    split at next
    · simp at next
    · split at next <;> simp at next
  | checkValid payload | enqueue payload | postValid | exchange | sentValid | consume | recheck =>
    simp only [turn] at next
    split at next <;> simp at next
  | _ => simp [turn] at next

theorem turn_stored (sound : session.sendQ.Sound) {cell : Nat}
    (stored : (pc.turn session accepted garbage).session.sendQ.Stored cell) :
    session.sendQ.Stored cell ∨ ∃ payload, pc = .enqueue payload ∧
      (session.sendQ.enqueue payload.data payload.size).2.returned ≠ 0 ∧
      ∃ segment ∈ session.sendQ.copySegments session.sendQ.writePos payload.size,
        segment.covers cell := by
  cases pc with
  | enqueue payload =>
    rcases sound.enqueue_stored payload stored with before | written
    · exact .inl before
    · exact .inr ⟨payload, rfl, written⟩
  | consume size => exact .inl (sound.consume_stored stored)
  | wsaSend info =>
    simp only [turn] at stored
    split at stored <;> exact .inl stored
  | wsaSendRest info =>
    simp only [turn] at stored
    split at stored <;> exact .inl stored
  | _ => exact .inl stored

end SendPc

theorem findSession_names {env : Environment} {server : Server} {sessionId : SessionId}
    {index : Index} (found : server.findSession env sessionId = some index) :
    Names index sessionId (server.sessions index).sessionId := by
  simp only [Server.findSession] at found
  split at found
  · cases found
  · split at found
    · next same =>
      cases found
      exact ⟨rfl, same⟩
    · cases found

theorem Frame.Leads.confined {env : Environment} {server next : Server} {history : History}
    {frame : Frame} {frames : List Frame} (leads : Leads env server frame frames)
    (other : ∀ index, frame.sends index = false ∧ frame.initializes index = false)
    (sessionIds : ∀ index, (next.sessions index).sessionId = (server.sessions index).sessionId) :
    ∀ below ∈ frames, below.Confined next history ∧ ∀ index, below.renames index = false := by
  cases leads with
  | foundSend sessionId payload index found =>
    intro below created
    cases List.mem_singleton.mp created
    refine ⟨⟨fun wanted same => ?_, by simp⟩, fun _ => rfl⟩
    cases same
    rw [sessionIds]
    exact findSession_names found
  | send index target pc proper => simpa [sends] using (other index).1
  | store pc later index clientSocket sessionId => simpa [initializes] using (other index).2
  | _ => simp [Confined, renames, startDisconnect]

namespace Machine

variable {env : Environment} {Thread : Type} [DecidableEq Thread]

/-- Initialize works on a slot only while no thread is on its send path and no WSASend is in flight
there, and no statement of the send path runs on a slot while Initialize works on it. -/
def Separated (machine : Machine Thread) : Frame → Prop
  | .initializeSession _ index _ _ =>
      (∀ thread, ∀ frame ∈ machine.threads thread, frame.sends index = false) ∧
        ∀ request ∈ machine.server.outstanding, request.operation = .send → request.index ≠ index
  | .send index _ _ => ∀ frame ∈ machine.threads none, frame.initializes index = false
  | _ => True

instance [Fintype Thread] (machine : Machine Thread) (frame : Frame) :
    Decidable (Separated machine frame) :=
  match frame with
  | .initializeSession _ index _ _ => inferInstanceAs (Decidable
      ((∀ thread, ∀ frame ∈ machine.threads thread, frame.sends index = false) ∧
        ∀ request ∈ machine.server.outstanding, request.operation = .send → request.index ≠ index))
  | .send index _ _ =>
      inferInstanceAs (Decidable (∀ frame ∈ machine.threads none, frame.initializes index = false))
  | .findSend _ _ | .findDisconnect _ | .disconnect _ _ _ | .dispatch _ | .checkId _
  | .moveWritePtr _ _ _ | .parse _ _ | .deliver _ _ _ | .postRecv _ _ | .wsaRecv _ _
  | .releaseSession | .release _ | .processAccept _ | .bindIOCP _ _ _ | .announceConnect _ _ _ =>
      inferInstanceAs (Decidable True)

structure Confined (machine : Machine Thread) : Prop where
  rings : machine.server.Every Rings
  frames : ∀ thread, ∀ frame ∈ machine.threads thread,
    frame.Confined machine.server machine.history
  stored : ∀ index, (∀ frame ∈ machine.threads none, frame.prepares index = false) →
    Meant machine.history index (machine.server.sessions index).sessionId
      (machine.server.sessions index).sendQ.Stored
  posted : ∀ request ∈ machine.server.outstanding, request.operation = .send →
    Meant machine.history request.index (machine.history.ids request.socket)
      (Covered request.segments)
  current : ∀ request ∈ machine.server.outstanding, request.operation = .send →
    (machine.server.sessions request.index).incarnation = request.incarnation ∧
      ∀ frame ∈ machine.threads none, frame.renames request.index = false

namespace Confined

variable {machine next : Machine Thread} {thread : Option Thread} {rest : List Frame}

omit [DecidableEq Thread] in
theorem keep (confined : Confined machine) (rings : next.server.Every Rings)
    (incarnations : ∀ index, (next.server.sessions index).incarnation =
      (machine.server.sessions index).incarnation)
    (sessionIds : ∀ index, (next.server.sessions index).sessionId =
      (machine.server.sessions index).sessionId)
    (sendQs : ∀ index, (next.server.sessions index).sendQ =
      (machine.server.sessions index).sendQ)
    (origin : next.history.origin = machine.history.origin)
    (outstanding : ∀ request ∈ next.server.outstanding, request.operation = .send →
      request ∈ machine.server.outstanding ∧
        next.history.ids request.socket = machine.history.ids request.socket)
    (frames : ∀ thread, ∀ frame ∈ next.threads thread, frame ∈ machine.threads thread ∨
      frame.Confined next.server next.history ∧ ∀ index, frame.renames index = false)
    (preparing : ∀ index, ∀ frame ∈ machine.threads none, frame.prepares index = true →
      frame ∈ next.threads none) : Confined next := by
  have meant {index : Index} {sessionId : SessionId} {cells : Nat → Prop}
      (before : Meant machine.history index sessionId cells) :
      Meant next.history index sessionId cells := by
    intro cell member target given
    rw [origin] at given
    exact before cell member target given
  refine ⟨rings, fun thread frame member => ?_, fun index ready => ?_, fun request member send => ?_,
    fun request member send => ?_⟩
  · rcases frames thread frame member with old | new
    · have before := confined.frames thread frame old
      cases frame with
      | send index target pc =>
        refine ⟨fun sessionId same => ?_, fun info at_pc => ?_⟩
        · rw [sessionIds]
          exact before.1 sessionId same
        · rw [sessionIds]
          exact meant (before.2 info at_pc)
      | _ => trivial
    · exact new.1
  · rw [sessionIds, sendQs]
    refine meant (confined.stored index fun frame member => ?_)
    by_contra prepares
    have kept := preparing index frame member (by simpa using prepares)
    exact prepares (ready frame kept)
  · obtain ⟨old, same⟩ := outstanding request member send
    rw [same]
    exact meant (confined.posted request old send)
  · obtain ⟨old, same⟩ := outstanding request member send
    obtain ⟨incarnation, settled⟩ := confined.current request old send
    refine ⟨by rw [incarnations]; exact incarnation, fun frame here => ?_⟩
    rcases frames none frame here with before | new
    · exact settled frame before
    · exact new.2 request.index

theorem runSend (confined : Confined machine) (identified : Identified machine) (bound : Bool)
    {index : Index} {target : Option SessionId} {pc : SendPc}
    (top : machine.threads thread = .send index target pc :: rest)
    (apart : ∀ frame ∈ machine.threads none, frame.initializes index = false)
    (rings : (machine.runFrame env thread bound (.send index target pc) rest).server.Every Rings) :
    Confined (machine.runFrame env thread bound (.send index target pc) rest) := by
  obtain ⟨addressed, snapshot⟩ := confined.frames thread _ (by rw [top]; exact List.mem_cons_self)
  have identity := Frame.turn_identity env machine.server (.send index target pc) bound nofun
  have ready : ∀ frame ∈ machine.threads none, frame.prepares index = false :=
    fun frame member => Frame.not_prepares (apart frame member)
  have settled : ∀ frame ∈ machine.threads none, frame.renames index = false :=
    fun frame member => Frame.not_renames (apart frame member)
  have named : machine.history.ids (machine.server.sessions index).incarnation =
      (machine.server.sessions index).sessionId := by
    refine (identified.named index).resolve_right ?_
    rintro ⟨sessionId, pending⟩
    simpa [Frame.renames] using settled _ pending
  have ids : ((Frame.send index target pc).record machine.server machine.history).ids =
      machine.history.ids := Frame.record_ids rfl
  have sound := (confined.rings index).sendQ.sound
  have narrow := (confined.rings index).sendQ.narrow
  have session : (Frame.turn env machine.server bound (.send index target pc)).1.sessions index =
      (pc.turn (machine.server.sessions index)
        ((machine.server.sessions index).socket.isSome && env.accepts machine.server.calls)
        (env.garbage machine.server.calls)).session := by
    simp only [Frame.turn, Frame.sendTurn_sessions, Server.modify_same]
  refine ⟨rings, fun owner below member => ?_, fun other clear => ?_, fun request member send => ?_,
    fun request member send => ?_⟩
  · simp only [runFrame]
    rcases runFrame_new_or_old bound top member with created | old
    · rcases Frame.resume_frames created with rfl | rfl
      · trivial
      · refine ⟨fun sessionId same => ?_, fun info at_pc => ?_⟩
        · rw [(identity index).1]
          exact addressed sessionId same
        · rw [Frame.sendTurn_next] at at_pc
          obtain ⟨rfl, some, idle⟩ := SendPc.turn_snapshot at_pc
          rw [(identity index).1, Frame.record_idle idle]
          exact (confined.stored index ready).mono fun cell => snapshot_stored sound narrow some
    · have before := confined.frames owner below old
      cases below with
      | send slot wanted step =>
        refine ⟨fun sessionId same => ?_, fun info at_pc => ?_⟩
        · rw [(identity slot).1]
          exact before.1 sessionId same
        · rw [(identity slot).1]
          refine (before.2 info at_pc).record pc ?_
          rintro rfl
          exact addressed
      | _ => trivial
  · have still : ∀ frame ∈ machine.threads none, frame.prepares other = false := by
      intro frame member
      by_contra prepares
      apply prepares (clear frame (runFrame_keeps bound top member _))
      rintro rfl
      simp [Frame.prepares] at prepares
    simp only [runFrame, (identity other).1]
    have before := confined.stored other still
    by_cases here : other = index
    · subst here
      intro cell stored wanted origin
      rw [session] at stored
      rcases SendPc.turn_stored sound stored with old | ⟨payload, rfl, accepted, written⟩
      · exact before.record pc (fun _ => addressed) cell old wanted origin
      · rw [Frame.record_written machine.history target accepted written] at origin
        exact addressed wanted origin
    · have unbegun : (Frame.send index target pc).initializes other = false := rfl
      have same := (Frame.turn_queues env machine.server (.send index target pc) bound unbegun).1
        (by simp [Frame.sends, Ne.symm here])
      rw [same]
      exact before.record pc fun at_index => absurd at_index here
  · simp only [runFrame, ids]
    rcases Frame.turn_outstanding member with old | ⟨opened, _, posted⟩
    · refine (confined.posted request old send).record pc fun at_index wanted same => ?_
      have socket := identified.tied.requests request old
      have incarnation := (confined.current request old send).1
      rw [socket, ← incarnation, at_index, named]
      exact addressed wanted same
    · have socket := (identified.tied.linked request.index).socket _ opened
      obtain ⟨poster, read, _⟩ | ⟨_, _, info, same, _, at_pc, buffers⟩ := posted
      · cases read
      · cases same
        rw [socket, named, buffers]
        exact (snapshot info at_pc).record pc fun _ => addressed
  · simp only [runFrame, (identity request.index).2.1]
    have unnamed {frame : Frame} (slot : Index) (frames : frame ∈ (machine.runFrame env thread bound
        (.send index target pc) rest).threads none) (old : frame ∈ machine.threads none →
          frame.renames slot = false) : frame.renames slot = false := by
      rcases runFrame_new_or_old bound top frames with created | before
      · rcases Frame.resume_frames created with rfl | rfl <;> rfl
      · exact old before
    rcases Frame.turn_outstanding member with old | ⟨_, incarnation, posted⟩
    · obtain ⟨same, still⟩ := confined.current request old send
      exact ⟨same, fun frame here => unnamed request.index here (still frame)⟩
    · refine ⟨incarnation.symm, fun frame here => unnamed request.index here ?_⟩
      obtain ⟨poster, read, _⟩ | ⟨_, _, info, same, _⟩ := posted
      · cases read
      · cases same
        exact settled frame

theorem runInitialize (confined : Confined machine) (identified : Identified machine)
    (bound : Bool) {pc : InitializePc} {index : Index} {clientSocket : Socket}
    {sessionId : SessionId}
    (top : machine.threads thread = .initializeSession pc index clientSocket sessionId :: rest)
    (unused : ∀ thread, ∀ frame ∈ machine.threads thread, frame.sends index = false)
    (unposted : ∀ request ∈ machine.server.outstanding, request.operation = .send →
      request.index ≠ index)
    (rings : (machine.runFrame env thread bound
      (.initializeSession pc index clientSocket sessionId) rest).server.Every Rings) :
    Confined (machine.runFrame env thread bound
      (.initializeSession pc index clientSocket sessionId) rest) := by
  have here : Frame.initializeSession pc index clientSocket sessionId ∈ machine.threads thread := by
    rw [top]
    exact List.mem_cons_self
  have none := identified.shaped.last top rfl
  have first := identified.shaped.acceptor here rfl
  subst first none
  have elsewhere {other : Index} (differs : other ≠ index) :
      (machine.server.modify index (pc.store clientSocket sessionId)).sessions other =
        machine.server.sessions other := by
    rw [Server.modify_sessions, if_neg differs]
  have created {below : Frame}
      (member : below ∈ (Frame.turn env machine.server bound
        (.initializeSession pc index clientSocket sessionId)).2) :
      ∀ other ≠ index, below.renames other = false ∧ below.prepares other = false := by
    intro other differs
    cases pc <;> cases List.mem_singleton.mp member <;>
      simp [Frame.renames, Frame.prepares, Ne.symm differs]
  refine ⟨rings, fun owner below member => ?_, fun other clear => ?_, fun request member send => ?_,
    fun request member send => ?_⟩
  · rcases runFrame_threads bound member with new | old
    · cases pc <;> cases List.mem_singleton.mp new <;> trivial
    · have before := (identified.shaped.alone top rfl rfl old).1
      have fits := confined.frames owner below before
      cases below with
      | send slot target step =>
        have differs : slot ≠ index := by
          rintro rfl
          simpa [Frame.sends] using unused owner _ before
        simpa only [Frame.Confined, runFrame, Frame.turn, Frame.record, elsewhere differs] using fits
      | _ => trivial
  · simp only [runFrame, Frame.turn, Frame.record]
    by_cases at_slot : other = index
    · subst at_slot
      rw [Server.modify_same]
      cases pc with
      | sendQ =>
        intro cell stored
        exact absurd stored ((confined.rings other).sendQ.sound.clear_unstored cell)
      | overlapped =>
        refine confined.stored other fun frame member => ?_
        rw [top] at member
        cases List.mem_singleton.mp member
        simp [Frame.prepares]
      | _ =>
        have still := clear (.initializeSession _ other clientSocket sessionId)
          (by simp only [runFrame, Frame.turn, InitializePc.next, Function.update_self]; exact List.mem_cons_self)
        simp [Frame.prepares] at still
    · rw [elsewhere at_slot]
      refine confined.stored other fun frame member => ?_
      rw [top] at member
      cases List.mem_singleton.mp member
      simp [Frame.prepares, Ne.symm at_slot]
  · exact confined.posted request member send
  · have differs := unposted request member send
    simp only [runFrame, Frame.turn, elsewhere differs]
    refine ⟨(confined.current request member send).1, fun below frames => ?_⟩
    rw [Function.update_self, List.append_nil] at frames
    exact (created frames request.index differs).1

theorem runOther (confined : Confined machine) (identified : Identified machine) (bound : Bool)
    {frame : Frame} (top : machine.threads thread = frame :: rest)
    (other : ∀ index, frame.sends index = false ∧ frame.initializes index = false)
    (rings : (machine.runFrame env thread bound frame rest).server.Every Rings) :
    Confined (machine.runFrame env thread bound frame rest) := by
  have identity := Frame.turn_identity env machine.server frame bound (by
    rintro pc index clientSocket sessionId rfl
    simpa [Frame.initializes] using (other index).2)
  refine confined.keep rings (fun index => (identity index).2.1) (fun index => (identity index).1)
    (fun index => (Frame.turn_queues env machine.server frame bound (other index).2).1
      (other index).1)
    (Frame.record_other_origin fun index => (other index).1) (fun request member send => ?_)
    (fun owner below member => ?_) (fun index below member prepares => ?_)
  · rcases Frame.turn_outstanding member with old | ⟨_, _, posted⟩
    · refine ⟨old, ?_⟩
      simp only [runFrame]
      cases frame with
      | processAccept clientSocket =>
        obtain ⟨_, _, unused⟩ := identified.frames thread (.processAccept clientSocket)
          (by rw [top]; exact List.mem_cons_self)
        have socket := identified.tied.requests request old
        have differs : request.socket ≠ clientSocket := by
          rw [socket]
          exact unused.outstanding request old
        simp only [Frame.record]
        split
        · rfl
        · exact Function.update_of_ne differs _ _
      | _ => rw [Frame.record_ids rfl]
    · obtain ⟨poster, read, receive, _⟩ | ⟨target, pc, info, same, _⟩ := posted
      · rw [receive] at send
        cases send
      · rw [same] at other
        simpa [Frame.sends] using (other request.index).1
  · rcases runFrame_new_or_old bound top member with created | old
    · exact .inr ((Frame.turn_leads env machine.server frame bound).confined other
        (fun index => (identity index).1) below created)
    · exact .inl old
  · refine runFrame_keeps bound top member ?_
    rintro rfl
    rw [Frame.not_prepares (other index).2] at prepares
    cases prepares

theorem moves {action : Turn Thread} (confined : Confined machine) (identified : Identified machine)
    (separated : Guarded Separated machine action) (moves : Moves env machine action next) :
    Confined next := by
  have rings := moves.rings confined.rings
  have begun (thread : Option Thread) (idle : machine.threads thread = []) {frames : List Frame}
      {server : Server} (same : server.sessions = machine.server.sessions)
      (outstanding : server.outstanding = machine.server.outstanding)
      (new : ∀ frame ∈ frames, frame.Confined server machine.history ∧
        ∀ index, frame.renames index = false) :
      Confined { machine with
        server := server
        threads := Function.update machine.threads thread frames } := by
    refine confined.keep (by intro index; rw [same]; exact confined.rings index)
      (fun _ => by rw [same]) (fun _ => by rw [same]) (fun _ => by rw [same]) rfl
      (fun request member _ => ⟨by rwa [outstanding] at member, rfl⟩)
      (fun owner frame member => ?_) (fun index frame member _ => ?_)
    · by_cases here : owner = thread
      · subst here
        exact .inr (new frame (by simpa using member))
      · exact .inl (by simpa [here] using member)
    · have other : none ≠ thread := by
        rintro rfl
        rw [idle] at member
        cases member
      simpa [other] using member
  have completed (server : Server) {position : Nat} {completion : Completion}
      (fields : ∀ index, (server.sessions index).incarnation =
          (machine.server.sessions index).incarnation ∧
        (server.sessions index).sessionId = (machine.server.sessions index).sessionId ∧
        (server.sessions index).sendQ = (machine.server.sessions index).sendQ)
      (outstanding : server.outstanding = machine.server.outstanding)
      {received : Socket → List UInt8}
      (rings : (server.complete position completion).Every Rings) :
      Confined { machine with
        server := server.complete position completion
        history := { machine.history with received := received } } := by
    refine confined.keep rings (fun index => (fields index).1) (fun index => (fields index).2.1)
      (fun index => (fields index).2.2) rfl (fun request member _ => ⟨?_, rfl⟩)
      (fun _ _ => .inl) (fun _ _ member _ => member)
    rw [← outstanding]
    exact List.mem_of_mem_eraseIdx member
  cases moves with
  | run thread bound frame rest top =>
    have permitted : Separated machine frame := separated frame (by simp [top])
    cases frame with
    | send index target pc => exact confined.runSend identified bound top permitted rings
    | initializeSession pc index clientSocket sessionId =>
      exact confined.runInitialize identified bound top permitted.1 permitted.2 rings
    | _ => exact confined.runOther identified bound top (fun _ => ⟨rfl, rfl⟩) rings
  | accept idle => exact begun none idle rfl rfl (by simp [Frame.Confined, Frame.renames])
  | acceptFailed idle => exact begun none idle rfl rfl (by simp [Frame.Confined, Frame.renames])
  | worker thread position completion found idle =>
    exact begun (some thread) idle rfl rfl (by simp [Frame.Confined, Frame.renames])
  | requestSendMsg thread sessionId payload idle =>
    exact begun (some thread) idle rfl rfl (by simp [Frame.Confined, Frame.renames])
  | requestDisconnectSession thread sessionId idle =>
    exact begun (some thread) idle rfl rfl (by simp [Frame.Confined, Frame.renames])
  | receive position bytes request found receive fits =>
    refine completed (machine.server.modify request.index _) (fun index => ?_) rfl rings
    rw [Server.modify_sessions]
    split
    · next same =>
      subst same
      exact ⟨rfl, rfl, rfl⟩
    · exact ⟨rfl, rfl, rfl⟩
  | transmit position count request found send some fits =>
    exact completed machine.server (fun _ => ⟨rfl, rfl, rfl⟩) rfl rings
  | fail position request found =>
    exact completed machine.server (fun _ => ⟨rfl, rfl, rfl⟩) rfl rings

end Confined

omit [DecidableEq Thread] in
theorem start_confined : Confined (start env : Machine Thread) where
  rings index := Rings.constructed (env.recvMemory index) (env.sendMemory index)
  frames _ _ member := absurd member List.not_mem_nil
  stored _ _ _ _ _ same := absurd same nofun
  posted _ member := absurd member List.not_mem_nil
  current _ member := absurd member List.not_mem_nil

theorem reachable_confined {machine : Machine Thread}
    (reached : Reachable (step env) (Guarded Separated) (start env) machine) :
    Confined machine := by
  induction reached with
  | start => exact start_confined
  | step reached separated taken ih =>
    exact ih.moves (reachable_identified reached) separated (step_moves taken)

structure Private (machine : Machine Thread) : Prop where
  placed : ∀ thread index target payload rest,
    machine.threads thread = .send index (some target) (.enqueue payload) :: rest →
    Names index target (machine.server.sessions index).sessionId
  handed : ∀ thread index target pc info rest,
    machine.threads thread = .send index target pc :: rest →
    pc = .wsaSend info ∨ pc = .wsaSendRest info →
    Meant machine.history index (machine.server.sessions index).sessionId
      (Covered (Server.sendBuffers info))
  transmitted : ∀ request ∈ machine.server.outstanding, request.operation = .send →
    Meant machine.history request.index (machine.history.ids request.socket)
      (Covered request.segments)

/-- In a run in which no slot is initialised under a thread's send path, no bytes reach another
session. -/
theorem sends_stay_private {machine : Machine Thread}
    (reached : Reachable (step env) (Guarded Separated) (start env) machine) :
    Private machine := by
  have confined := reachable_confined reached
  refine ⟨fun thread index target payload rest top => ?_,
    fun thread index target pc info rest top at_pc => ?_, confined.posted⟩
  · have fits := confined.frames thread _ (by rw [top]; exact List.mem_cons_self)
    exact fits.1 target rfl
  · have fits := confined.frames thread _ (by rw [top]; exact List.mem_cons_self)
    exact fits.2 info at_pc

-- The `_valid` test of RequestSendMsg passes for the first client, the Enqueue is the second one's.
theorem send_reaches_next_client :
    ¬ ∀ machine : Machine (Fin 2),
      Reachable (step Server.oneSlot) Always (start Server.oneSlot) machine → Private machine := by
  intro always
  obtain ⟨machine, reached, seen⟩ := Reachable.observe (step Server.oneSlot)
    (start Server.oneSlot : Machine (Fin 2))
    (.accept :: .run none true :: acceptClient ++
      .requestSendMsg 0 1 (.ofBytes [7]) :: List.replicate 2 (.run (some 0) true) ++
      .requestDisconnectSession 1 1 :: List.replicate 7 (.run (some 1) true) ++
      .accept :: List.replicate 3 (.run none true) ++ acceptClient ++
      List.replicate 5 (.run (some 0) true))
    (fun machine => ∃ request ∈ machine.server.outstanding, request.operation = .send ∧
      request.index = 0 ∧ (∃ segment ∈ request.segments, segment.covers 0) ∧
      machine.history.origin 0 0 = some 1 ∧ machine.history.ids request.socket = 2)
    (by decide +kernel)
  obtain ⟨request, member, send, slot, covered, first, second⟩ := of_decide_eq_true seen
  have meant := (always machine reached).transmitted request member send 0 covered 1
    (by rw [slot]; exact first)
  rw [slot, second] at meant
  exact absurd meant.2 (by decide)

-- Each of two clients that have the slot in turn is sent its own bytes.
theorem sends_stay_private_reused_slot :
    ∃ machine : Machine (Fin 2), (∃ request ∈ machine.server.outstanding,
      request.operation = .send ∧ machine.history.ids request.socket = 2 ∧
      machine.history.origin 0 0 = some 2) ∧ Private machine := by
  obtain ⟨machine, reached, seen⟩ := Reachable.observe
    (restrict (step Server.oneSlot) (Guarded Separated)) (start Server.oneSlot : Machine (Fin 2))
    (.accept :: .run none true :: acceptClient ++
      .requestSendMsg 0 1 (.ofBytes [7]) :: List.replicate 7 (.run (some 0) true) ++
      .requestDisconnectSession 1 1 :: List.replicate 7 (.run (some 1) true) ++
      .accept :: List.replicate 3 (.run none true) ++ acceptClient ++
      .requestSendMsg 0 2 (.ofBytes [8]) :: List.replicate 7 (.run (some 0) true))
    (fun machine => ∃ request ∈ machine.server.outstanding, request.operation = .send ∧
      machine.history.ids request.socket = 2 ∧ machine.history.origin 0 0 = some 2)
    (by decide +kernel)
  exact ⟨machine, of_decide_eq_true seen, sends_stay_private reached.unrestrict⟩

end Machine

end MiniGames
