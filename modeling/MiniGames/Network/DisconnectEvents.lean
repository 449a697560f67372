import MiniGames.Network.SingleReceive
import Mathlib.Data.Fintype.Option

set_option autoImplicit false

namespace MiniGames

open Runs Token

-- The id was made for the slot, before the counter reached its present value.
def Issued (counter : BitVec 64) (index : Index) (sessionId : SessionId) : Prop :=
  extractIndex sessionId = index ∧ (extractUniqueId sessionId).toNat < counter.toNat

theorem issued_real (index : Index) {counter : BitVec 64} (positive : 0 < counter.toNat)
    (early : counter.toNat < 2 ^ 48) :
    extractUniqueId (makeSessionId index (counter &&& sessionUniqueMask)) ≠ 0 := by
  intro zero
  rw [extractUniqueId_counter index early] at zero
  rw [zero] at positive
  exact absurd positive (by decide)

namespace Frame

theorem processAccept_counter (env : Environment) {server : Server} (bound : Bool)
    (clientSocket : Socket) {index : Index} {rest : List Index}
    (available : server.availableIndices = index :: rest)
    (early : server.sessionIdCounter.toNat < 2 ^ 48) :
    (turn env server bound (.processAccept clientSocket)).1.sessionIdCounter.toNat =
      server.sessionIdCounter.toNat + 1 := by
  simp only [turn, processAcceptTurn, available, BitVec.toNat_add]
  exact Nat.mod_eq_of_lt (by simp; omega)

-- The frame has cleared `_valid` of the session and has not pushed the event.
def owes (sessionId : SessionId) : Frame → Bool
  | .disconnect _ .exchange _ => false
  | .disconnect _ _ cleared => cleared = sessionId
  | _ => false

-- The frame is inside DisconnectSessionInternal and has yet to read the id of the slot.
def reads (index : Index) : Frame → Bool
  | .disconnect _ .exchange _ | .disconnect _ (.pushEvent _) _ => false
  | .disconnect slot _ _ => slot = index
  | _ => false

def validates (index : Index) : Frame → Bool
  | .initializeSession .valid slot _ _ => slot = index
  | _ => false

def Fits (server : Server) (history : History) : Frame → Prop
  | .disconnect _ .exchange _ => True
  | .disconnect _ (.pushEvent sessionId) cleared => sessionId = cleared
  | .disconnect index _ cleared => (server.sessions index).sessionId = cleared
  | .initializeSession pc index _ sessionId =>
      Issued server.sessionIdCounter index sessionId ∧ extractUniqueId sessionId ≠ 0 ∧
        match pc with
        | .socket | .sessionId =>
            sessionId ∉ history.cleared ∧ ∀ slot, (server.sessions slot).sessionId ≠ sessionId
        | .valid =>
            sessionId ∉ history.cleared ∧ (server.sessions index).sessionId = sessionId
        | _ => True
  | _ => True

theorem Fits.keep {server next : Server} {history later : History} {frame : Frame}
    (fits : frame.Fits server history)
    (ids : ∀ index, (next.sessions index).sessionId = (server.sessions index).sessionId)
    (counter : server.sessionIdCounter.toNat ≤ next.sessionIdCounter.toNat)
    (cleared : later.cleared = history.cleared) : frame.Fits next later := by
  cases frame with
  | disconnect index pc id => cases pc <;> simp only [Fits, ids] at fits ⊢ <;> exact fits
  | initializeSession pc index clientSocket sessionId =>
    obtain ⟨⟨slot, early⟩, real, fresh⟩ := fits
    refine ⟨⟨slot, Nat.lt_of_lt_of_le early counter⟩, real, ?_⟩
    cases pc <;> simp only [ids, cleared] at fresh ⊢ <;> exact fresh
  | _ => trivial

def plain : Frame → Bool
  | .disconnect _ .exchange _ => true
  | .disconnect _ _ _ | .initializeSession _ _ _ _ => false
  | _ => true

theorem plain_fits {server : Server} {history : History} {frame : Frame}
    (plain : frame.plain = true) : frame.Fits server history := by
  cases frame with
  | disconnect index pc cleared => cases pc <;> trivial
  | initializeSession pc index clientSocket sessionId => cases plain
  | _ => trivial

theorem plain_owes {frame : Frame} (sessionId : SessionId) (plain : frame.plain = true) :
    frame.owes sessionId = false := by
  cases frame with
  | disconnect index pc cleared => cases pc <;> trivial
  | _ => rfl

theorem record_cleared {server : Server} {history : History} {frame : Frame}
    (other : ∀ index cleared, frame ≠ .disconnect index .exchange cleared) :
    (frame.record server history).cleared = history.cleared := by
  cases frame with
  | disconnect index pc cleared =>
    cases pc with
    | exchange => exact absurd rfl (other index cleared)
    | _ => rfl
  | send index target pc =>
    cases pc with
    | enqueue payload =>
      simp only [record]
      split <;> rfl
    | _ => rfl
  | processAccept clientSocket =>
    simp only [record]
    split <;> rfl
  | _ => rfl

theorem waits_plain {frame : Frame} (waits : frame.waits = true) : frame.plain = true := by
  cases frame <;> first | rfl | cases waits

theorem Leads.plain {env : Environment} {server : Server} {frame : Frame} {frames : List Frame}
    (leads : Leads env server frame frames) (kept : frame.plain = true)
    (other : frame.issues = false) (left : ∀ index cleared, frame ≠ .disconnect index .exchange cleared) :
    ∀ next ∈ frames, next.plain = true := by
  cases leads with
  | clear index cleared => exact absurd rfl (left index cleared)
  | processAccept => cases other
  | _ => simp [Frame.plain, startDisconnect] at kept ⊢

-- Only DisconnectSessionInternal owes an event, and pushes it.
theorem Leads.owes {env : Environment} {server : Server} {frame : Frame} {frames : List Frame}
    (leads : Leads env server frame frames)
    (other : ∀ index pc cleared, frame ≠ .disconnect index pc cleared) (sessionId : SessionId) :
    frames.any (Frame.owes sessionId) = false := by
  cases leads with
  | clear index cleared => exact absurd rfl (other index .exchange cleared)
  | close index cleared => exact absurd rfl (other index .close cleared)
  | clearSending index cleared => exact absurd rfl (other index .clearSending cleared)
  | pushPending index cleared => exact absurd rfl (other index .pushPending cleared)
  | readSessionId index cleared => exact absurd rfl (other index .readSessionId cleared)
  | _ => rfl

theorem pushes_count {server : Server} {frame : Frame}
    (other : ∀ index pc cleared, frame ≠ .disconnect index pc cleared) (sessionId : SessionId) :
    (frame.pushes server).count ⟨.disconnected, sessionId, []⟩ = 0 := by
  cases frame with
  | disconnect index pc cleared => exact absurd rfl (other index pc cleared)
  | _ => simp [pushes]

end Frame

namespace Machine

variable {env : Environment} {Thread : Type} [DecidableEq Thread]

/-- No session id is stored while a DisconnectSessionInternal has yet to read the old one, no session
is disconnected between the store of its id and that of its `_valid`, and ids do not come round. -/
def Orderly (machine : Machine Thread) : Frame → Prop
  | .initializeSession .sessionId index _ _ =>
      ∀ thread, ∀ frame ∈ machine.threads thread, frame.reads index = false
  | .disconnect index .exchange _ =>
      (machine.server.sessions index).valid = true →
        ∀ frame ∈ machine.threads none, frame.validates index = false
  | .processAccept _ => machine.server.sessionIdCounter.toNat < 2 ^ 48
  | _ => True

instance [Fintype Thread] (machine : Machine Thread) (frame : Frame) :
    Decidable (Orderly machine frame) :=
  match frame with
  | .initializeSession .sessionId index _ _ => inferInstanceAs (Decidable
      (∀ thread, ∀ frame ∈ machine.threads thread, frame.reads index = false))
  | .disconnect index .exchange _ =>
      inferInstanceAs (Decidable ((machine.server.sessions index).valid = true →
        ∀ frame ∈ machine.threads none, frame.validates index = false))
  | .processAccept _ =>
      inferInstanceAs (Decidable (machine.server.sessionIdCounter.toNat < 2 ^ 48))
  | .findSend _ _ | .findDisconnect _ | .send _ _ _ | .dispatch _ | .checkId _
  | .moveWritePtr _ _ _ | .parse _ _ | .deliver _ _ _ | .postRecv _ _ | .wsaRecv _ _
  | .releaseSession | .release _ | .bindIOCP _ _ _ | .announceConnect _ _ _
  | .initializeSession .socket _ _ _ | .initializeSession .valid _ _ _
  | .initializeSession .sending _ _ _ | .initializeSession .recvQ _ _ _
  | .initializeSession .sendQ _ _ _ | .initializeSession .overlapped _ _ _
  | .disconnect _ .close _ | .disconnect _ .clearSending _ | .disconnect _ .pushPending _
  | .disconnect _ .readSessionId _ | .disconnect _ (.pushEvent _) _ =>
      inferInstanceAs (Decidable True)

structure Named (machine : Machine Thread) : Prop where
  positive : 0 < machine.server.sessionIdCounter.toNat
  slots : ∀ index, extractUniqueId (machine.server.sessions index).sessionId ≠ 0 →
    Issued machine.server.sessionIdCounter index (machine.server.sessions index).sessionId
  cleared : ∀ sessionId ∈ machine.history.cleared,
    (extractUniqueId sessionId).toNat < machine.server.sessionIdCounter.toNat
  live : ∀ index, (machine.server.sessions index).valid = true →
    extractUniqueId (machine.server.sessions index).sessionId ≠ 0 →
    (machine.server.sessions index).sessionId ∉ machine.history.cleared
  fits : ∀ thread, ∀ frame ∈ machine.threads thread, frame.Fits machine.server machine.history

namespace Named

variable {machine next : Machine Thread}

omit [DecidableEq Thread] in
theorem keep (named : Named machine)
    (ids : ∀ index, (next.server.sessions index).sessionId =
      (machine.server.sessions index).sessionId)
    (valid : ∀ index, (next.server.sessions index).valid = true →
      (machine.server.sessions index).valid = true)
    (counter : next.server.sessionIdCounter = machine.server.sessionIdCounter)
    (cleared : next.history.cleared = machine.history.cleared)
    (fits : ∀ thread, ∀ frame ∈ next.threads thread,
      frame ∈ machine.threads thread ∨ frame.Fits next.server next.history) : Named next where
  positive := by
    rw [counter]
    exact named.positive
  slots index real := by
    rw [ids] at real ⊢
    rw [counter]
    exact named.slots index real
  cleared sessionId member := by
    rw [cleared] at member
    rw [counter]
    exact named.cleared sessionId member
  live index now real := by
    rw [ids] at real ⊢
    rw [cleared]
    exact named.live index (valid index now) real
  fits thread frame member := by
    rcases fits thread frame member with old | new
    · exact (named.fits thread frame old).keep ids (Nat.le_of_eq (by rw [counter])) cleared
    · exact new

variable {thread : Option Thread} {rest : List Frame}

theorem runPlain (named : Named machine) (bound : Bool) {frame : Frame}
    (top : machine.threads thread = frame :: rest) (plain : frame.plain = true)
    (other : frame.issues = false)
    (left : ∀ index cleared, frame ≠ .disconnect index .exchange cleared) :
    Named (machine.runFrame env thread bound frame rest) := by
  have identity := Frame.turn_identity env machine.server frame bound
    (by rintro pc index clientSocket sessionId rfl; cases plain)
  refine named.keep (fun index => (identity index).1) (fun index => (identity index).2.2)
    ((Frame.turn_counters env machine.server frame bound).2.1 other) (Frame.record_cleared left) (fun slot below member => ?_)
  rcases runFrame_new_or_old bound top member with new | old
  · exact .inr (Frame.plain_fits ((frame.turn_leads env machine.server bound).plain plain other left
      below new))
  · exact .inl old

theorem runDisconnect (named : Named machine) (bound : Bool) {index : Index} {pc : DisconnectPc}
    {cleared : SessionId} (top : machine.threads thread = .disconnect index pc cleared :: rest)
    (left : pc ≠ .exchange ∨ (machine.server.sessions index).valid = false) :
    Named (machine.runFrame env thread bound (.disconnect index pc cleared) rest) := by
  have identity := Frame.turn_identity env machine.server (.disconnect index pc cleared) bound nofun
  have fits := named.fits thread _ (by rw [top]; exact List.mem_cons_self)
  have recorded : ((Frame.disconnect index pc cleared).record machine.server
      machine.history).cleared = machine.history.cleared := by
    rcases left with other | invalid
    · exact Frame.record_cleared (by rintro slot id same; cases same; exact other rfl)
    · cases pc <;> simp [Frame.record, invalid]
  refine named.keep (fun index => (identity index).1) (fun index => (identity index).2.2)
    ((Frame.turn_counters env machine.server (.disconnect index pc cleared) bound).2.1 rfl) recorded
    (fun slot below member => ?_)
  rcases runFrame_new_or_old bound top member with new | old
  · refine .inr ?_
    have same := (identity index).1
    simp only [runFrame]
    generalize history : (Frame.disconnect index pc cleared).record machine.server
      machine.history = later
    cases pc with
    | exchange =>
      have invalid := left.resolve_left (not_not.mpr rfl)
      simp [Frame.turn, Frame.disconnectTurn, invalid] at new
    | close | clearSending | pushPending =>
      simp only [Frame.turn, Frame.disconnectTurn, List.mem_singleton] at new
      subst new
      exact same.trans fits
    | readSessionId =>
      simp only [Frame.turn, Frame.disconnectTurn, List.mem_singleton] at new
      subst new
      exact fits
    | pushEvent sessionId => cases new
  · exact .inl old

omit [DecidableEq Thread] in
theorem slots_differ (named : Named machine) {index other : Index}
    (real : extractUniqueId (machine.server.sessions index).sessionId ≠ 0)
    (same : (machine.server.sessions other).sessionId =
      (machine.server.sessions index).sessionId) : other = index := by
  have here := (named.slots index real).1
  have there := (named.slots other (by rwa [same])).1
  rw [← there, same, here]

theorem runClear (named : Named machine) (shaped : Shaped machine) (bound : Bool) {index : Index}
    {unused : SessionId} (top : machine.threads thread = .disconnect index .exchange unused :: rest)
    (valid : (machine.server.sessions index).valid = true)
    (settled : ∀ frame ∈ machine.threads none, frame.validates index = false) :
    Named (machine.runFrame env thread bound (.disconnect index .exchange unused) rest) := by
  have identity := (Frame.turn_identity env machine.server
    (.disconnect index .exchange unused) bound nofun)
  have ids := fun slot => (identity slot).1
  have counter := (Frame.turn_counters env machine.server
    (.disconnect index .exchange unused) bound).2.1 rfl
  have recorded : ((Frame.disconnect index .exchange unused).record machine.server
      machine.history).cleared =
      machine.history.cleared ++ [(machine.server.sessions index).sessionId] := by
    simp [Frame.record, valid]
  have turned : (Frame.turn env machine.server bound (.disconnect index .exchange unused)).2 =
      [.disconnect index .close (machine.server.sessions index).sessionId] := by
    simp [Frame.turn, Frame.disconnectTurn, valid]
  constructor
  · simpa only [runFrame, counter] using named.positive
  · intro slot real
    simp only [runFrame, ids, counter] at real ⊢
    exact named.slots slot real
  · intro sessionId member
    simp only [runFrame, counter, recorded] at member ⊢
    rcases List.mem_append.mp member with old | new
    · exact named.cleared sessionId old
    · rw [List.mem_singleton.mp new]
      by_cases real : extractUniqueId (machine.server.sessions index).sessionId = 0
      · simpa [real] using named.positive
      · exact (named.slots index real).2
  · intro slot now real
    simp only [runFrame, ids, recorded] at real ⊢
    have before := (identity slot).2.2 now
    intro member
    rcases List.mem_append.mp member with old | new
    · exact named.live slot before real old
    · have same := named.slots_differ (by rwa [← List.mem_singleton.mp new])
        (List.mem_singleton.mp new)
      subst same
      simp [runFrame, Frame.turn, Frame.disconnectTurn, valid, CSession.storeValid] at now
  · intro slot below member
    rcases runFrame_new_or_old bound top member with new | old
    · rw [turned, List.mem_singleton] at new
      subst new
      exact ids index
    · have fits := named.fits slot below old
      simp only [runFrame]
      cases below with
      | disconnect at_slot pc cleared =>
        cases pc <;> simp only [Frame.Fits, ids] at fits ⊢ <;> exact fits
      | initializeSession pc at_slot clientSocket sessionId =>
        obtain ⟨issued, real, fresh⟩ := fits
        refine ⟨by simpa only [counter] using issued, real, ?_⟩
        cases pc with
        | socket | sessionId =>
          refine ⟨?_, fun slot => by simpa only [ids] using fresh.2 slot⟩
          rw [recorded]
          simpa [fresh.1] using (fresh.2 index).symm
        | valid =>
          refine ⟨?_, by simpa only [ids] using fresh.2⟩
          rw [recorded]
          intro member
          rcases List.mem_append.mp member with old | new
          · exact fresh.1 old
          · have same := named.slots_differ (by rwa [← List.mem_singleton.mp new])
              (fresh.2.trans (List.mem_singleton.mp new))
            subst same
            have first := shaped.acceptor old rfl
            subst first
            simpa [Frame.validates] using settled _ old
        | _ => trivial
      | _ => trivial

theorem runAccept (named : Named machine) (bound : Bool) {clientSocket : Socket}
    (top : machine.threads thread = .processAccept clientSocket :: rest)
    (early : machine.server.sessionIdCounter.toNat < 2 ^ 48) :
    Named (machine.runFrame env thread bound (.processAccept clientSocket) rest) := by
  have identity := Frame.turn_identity env machine.server (.processAccept clientSocket) bound nofun
  have ids := fun slot => (identity slot).1
  have valid := fun slot => (identity slot).2.2
  have recorded : ((Frame.processAccept clientSocket).record machine.server
      machine.history).cleared = machine.history.cleared := Frame.record_cleared nofun
  cases available : machine.server.availableIndices with
  | nil =>
    refine named.keep ids valid ?_ recorded (fun slot below member => ?_)
    · simp [runFrame, Frame.turn, Frame.processAcceptTurn, available, Server.closesocket]
    · rcases runFrame_new_or_old bound top member with new | old
      · simp [Frame.turn, Frame.processAcceptTurn, available] at new
      · exact .inl old
  | cons index more =>
    have counter := Frame.processAccept_counter env bound clientSocket available early
    have unique := extractUniqueId_counter index early
    constructor
    · simp only [runFrame, counter]
      omega
    · intro slot real
      simp only [runFrame, ids] at real ⊢
      obtain ⟨here, made⟩ := named.slots slot real
      exact ⟨here, by omega⟩
    · intro sessionId member
      simp only [runFrame, recorded, counter] at member ⊢
      have made := named.cleared sessionId member
      omega
    · intro slot now real
      simp only [runFrame, ids, recorded] at real ⊢
      exact named.live slot (valid slot now) real
    · intro slot below member
      rcases runFrame_new_or_old bound top member with new | old
      · simp only [Frame.turn, Frame.processAcceptTurn, available, List.mem_singleton] at new
        subst new
        have real := issued_real index named.positive early
        refine ⟨⟨extractIndex_makeSessionId _ _, ?_⟩, real, ?_, fun slot same => ?_⟩
        · simp only [runFrame, unique, counter]
          omega
        · simp only [runFrame, recorded]
          intro member
          have made := named.cleared _ member
          rw [unique] at made
          omega
        · simp only [runFrame, ids] at same
          have made := (named.slots slot (by rwa [same])).2
          rw [same, unique] at made
          omega
      · exact (named.fits slot below old).keep ids (by simp only [runFrame]; omega) recorded

theorem runInitialize (named : Named machine) (shaped : Shaped machine) (bound : Bool)
    {pc : InitializePc} {index : Index} {clientSocket : Socket} {sessionId : SessionId}
    (top : machine.threads thread = .initializeSession pc index clientSocket sessionId :: rest)
    (unread : pc = .sessionId →
      ∀ thread, ∀ frame ∈ machine.threads thread, frame.reads index = false) :
    Named (machine.runFrame env thread bound (.initializeSession pc index clientSocket sessionId)
      rest) := by
  obtain ⟨issued, real, fresh⟩ := named.fits thread _ (by rw [top]; exact List.mem_cons_self)
  have ids (slot : Index) :
      ((machine.server.modify index (pc.store clientSocket sessionId)).sessions slot).sessionId =
        if slot = index ∧ pc = .sessionId then sessionId
        else (machine.server.sessions slot).sessionId := by
    rw [Server.modify_sessions]
    by_cases here : slot = index <;> simp [here]
  have valid {slot : Index}
      (now : ((machine.server.modify index (pc.store clientSocket sessionId)).sessions
        slot).valid = true) :
      (slot = index ∧ pc = .valid) ∨ (machine.server.sessions slot).valid = true := by
    rw [Server.modify_sessions] at now
    by_cases here : slot = index
    · subst here
      by_cases last : pc = .valid
      · exact .inl ⟨rfl, last⟩
      · exact .inr (by simpa [last] using now)
    · exact .inr (by simpa [here] using now)
  constructor
  · exact named.positive
  · intro slot nonzero
    simp only [runFrame, Frame.turn, ids] at nonzero ⊢
    split
    · next changed =>
      rw [changed.1]
      exact issued
    · next same =>
      rw [if_neg same] at nonzero
      exact named.slots slot nonzero
  · exact named.cleared
  · intro slot now nonzero
    simp only [runFrame, Frame.turn, ids] at now nonzero ⊢
    by_cases changed : slot = index ∧ pc = .sessionId
    · rw [if_pos changed]
      obtain ⟨_, rfl⟩ := changed
      exact fresh.1
    · rw [if_neg changed] at nonzero ⊢
      rcases valid now with ⟨here, last⟩ | before
      · subst here last
        rw [fresh.2]
        exact fresh.1
      · exact named.live slot before nonzero
  · intro slot below member
    rcases runFrame_threads bound member with new | old
    · cases pc with
      | socket =>
        rw [List.mem_singleton.mp new]
        refine ⟨issued, real, fresh.1, fun slot => ?_⟩
        simp only [runFrame, Frame.turn, ids]
        rw [if_neg (by simp)]
        exact fresh.2 slot
      | sessionId =>
        rw [List.mem_singleton.mp new]
        exact ⟨issued, real, fresh.1, (ids index).trans (if_pos ⟨rfl, rfl⟩)⟩
      | valid | sending | recvQ | sendQ =>
        rw [List.mem_singleton.mp new]
        exact ⟨issued, real, trivial⟩
      | overlapped =>
        rw [List.mem_singleton.mp new]
        trivial
    · obtain ⟨had, quiet⟩ := shaped.alone top rfl rfl old
      have fits := named.fits slot below had
      cases below with
      | disconnect at_slot step cleared =>
        have same : (step ≠ .exchange ∧ ∀ id, step ≠ .pushEvent id) →
            ¬ (at_slot = index ∧ pc = .sessionId) := by
          rintro ⟨left, early⟩ ⟨here, storing⟩
          have read := unread storing slot _ had
          cases step <;> simp_all [Frame.reads]
        cases step <;> simp only [Frame.Fits, runFrame, Frame.turn, ids] at fits ⊢ <;> try exact fits
        all_goals
          rw [if_neg (same ⟨by simp, by simp⟩)]
          exact fits
      | initializeSession => cases quiet
      | _ => trivial

theorem moves {action : Turn Thread} (named : Named machine) (shaped : Shaped machine)
    (orderly : Guarded Orderly machine action) (moves : Moves env machine action next) :
    Named next := by
  have begun (thread : Option Thread) {frames : List Frame}
      (plain : ∀ frame ∈ frames, frame.plain = true) {server : Server}
      (sessions : server.sessions = machine.server.sessions)
      (counter : server.sessionIdCounter = machine.server.sessionIdCounter) :
      Named { machine with
        server := server
        threads := Function.update machine.threads thread frames } := by
    refine named.keep (fun index => by rw [sessions]) (fun index now => by rwa [sessions] at now)
      counter rfl (fun other frame member => ?_)
    by_cases same : other = thread
    · subst same
      exact .inr (Frame.plain_fits (plain frame (by simpa using member)))
    · exact .inl (by simpa [same] using member)
  cases moves with
  | run thread bound frame rest top =>
    have permitted : Orderly machine frame := orderly frame (by simp [top])
    by_cases plain : frame.plain = true ∧ frame.issues = false ∧
        ∀ index cleared, frame ≠ .disconnect index .exchange cleared
    · exact named.runPlain bound top plain.1 plain.2.1 plain.2.2
    · cases frame with
      | disconnect index pc cleared =>
        by_cases clears : pc = .exchange ∧ (machine.server.sessions index).valid = true
        · obtain ⟨rfl, valid⟩ := clears
          exact named.runClear shaped bound top valid (permitted valid)
        · exact named.runDisconnect bound top (by simpa [imp_iff_not_or] using clears)
      | processAccept clientSocket => exact named.runAccept bound top permitted
      | initializeSession pc index clientSocket sessionId =>
        refine named.runInitialize shaped bound top ?_
        rintro rfl
        exact permitted
      | _ => simp [Frame.plain, Frame.issues] at plain
  | accept idle => exact begun none (by simp [Frame.plain]) rfl rfl
  | acceptFailed idle => exact begun none (by simp [Frame.plain]) rfl rfl
  | receive position bytes request found receive fits =>
    refine named.keep (fun index => ?_) (fun index now => ?_) rfl rfl (fun _ _ => .inl)
    · simp only [Server.complete, Server.modify_sessions]
      split <;> simp_all
    · simp only [Server.complete, Server.modify_sessions] at now
      split at now <;> simp_all
  | transmit position count request found send some fits =>
    exact named.keep (fun _ => rfl) (fun _ => id) rfl rfl (fun _ _ => .inl)
  | fail position request found =>
    exact named.keep (fun _ => rfl) (fun _ => id) rfl rfl (fun _ _ => .inl)
  | worker thread position completion found idle =>
    exact begun (some thread) (by simp [Frame.plain]) rfl rfl
  | requestSendMsg thread sessionId payload idle =>
    exact begun (some thread) (by simp [Frame.plain]) rfl rfl
  | requestDisconnectSession thread sessionId idle =>
    exact begun (some thread) (by simp [Frame.plain]) rfl rfl

end Named

/-- Who has to push the DISCONNECTED event of an id, or that it was pushed. -/
def Debts (machine : Machine Thread) : Prop :=
  ∀ sessionId, extractUniqueId sessionId ≠ 0 → ∃ placement,
    Placed (fun frames => frames.any (Frame.owes sessionId)) machine.threads
      (machine.server.eventQueue.count ⟨.disconnected, sessionId, []⟩) placement ∧
    (sessionId ∈ machine.history.cleared ↔ placement ≠ .free)

namespace Debts

variable {machine next : Machine Thread} {thread : Option Thread} {frame : Frame}
  {rest : List Frame}

theorem keep (debts : Debts machine) (thread : Option Thread) {frames : List Frame}
    {server : Server} {history : History}
    (owes : ∀ sessionId, frames.any (Frame.owes sessionId) =
      (machine.threads thread).any (Frame.owes sessionId))
    (events : ∀ sessionId, server.eventQueue.count ⟨.disconnected, sessionId, []⟩ =
      machine.server.eventQueue.count ⟨.disconnected, sessionId, []⟩)
    (cleared : history.cleared = machine.history.cleared) :
    Debts { server, threads := Function.update machine.threads thread frames, history } := by
  intro sessionId real
  obtain ⟨placement, placed, known⟩ := debts sessionId real
  refine ⟨placement, ?_, by rw [cleared]; exact known⟩
  rw [events]
  exact placed.stay (owes sessionId)

theorem runOther (debts : Debts machine) (mode : env.architectureType = .centralized)
    (bound : Bool) (top : machine.threads thread = frame :: rest)
    (other : ∀ index pc cleared, frame ≠ .disconnect index pc cleared) :
    Debts (machine.runFrame env thread bound frame rest) := by
  refine debts.keep thread (fun sessionId => ?_) (fun sessionId => ?_)
    (Frame.record_cleared fun index => other index .exchange)
  · have before : frame.owes sessionId = false := by
      cases frame with
      | disconnect index pc cleared => exact absurd rfl (other index pc cleared)
      | _ => rfl
    rw [top, List.any_append, List.any_cons, before,
      (Frame.turn_leads env machine.server frame bound).owes other]
  · rw [(Frame.turn_counters env machine.server frame bound).2.2 mode, List.count_append,
      Frame.pushes_count other, Nat.add_zero]

theorem runDisconnect (debts : Debts machine) (named : Named machine) (shaped : Shaped machine)
    (mode : env.architectureType = .centralized) (bound : Bool) {index : Index}
    {pc : DisconnectPc} {cleared : SessionId}
    (top : machine.threads thread = .disconnect index pc cleared :: rest) :
    Debts (machine.runFrame env thread bound (.disconnect index pc cleared) rest) := by
  have below (sessionId : SessionId) : rest.any (Frame.owes sessionId) = false := by
    rw [List.any_eq_false]
    intro frame member
    simp [Frame.plain_owes sessionId (Frame.waits_plain (shaped.standing top member).2)]
  have events := (Frame.turn_counters env machine.server (.disconnect index pc cleared) bound).2.2 mode
  have fits := named.fits thread _ (by rw [top]; exact List.mem_cons_self)
  -- Between the exchange and the push of the event the debt stays with the thread.
  have holds (next : DisconnectPc) (unpushed : Frame.pushes machine.server
        (.disconnect index pc cleared) = []) (entered : pc ≠ .exchange) (left : next ≠ .exchange)
      (turned : (Frame.turn env machine.server bound (.disconnect index pc cleared)).2 =
        [.disconnect index next cleared]) :
      Debts (machine.runFrame env thread bound (.disconnect index pc cleared) rest) := by
    refine debts.keep thread (fun sessionId => ?_) (fun sessionId => ?_)
      (Frame.record_cleared (by rintro _ _ same; cases same; exact entered rfl))
    · rw [top, turned]
      cases pc <;> cases next <;> simp_all [Frame.owes]
    · rw [events, unpushed, List.append_nil]
  cases pc with
  | exchange =>
    have unpushed : Frame.pushes machine.server (.disconnect index .exchange cleared) = [] := rfl
    by_cases valid : (machine.server.sessions index).valid = true
    · have turned : (Frame.turn env machine.server bound (.disconnect index .exchange cleared)).2 =
          [.disconnect index .close (machine.server.sessions index).sessionId] := by
        simp [Frame.turn, Frame.disconnectTurn, valid]
      have recorded : ((Frame.disconnect index .exchange cleared).record machine.server
          machine.history).cleared =
          machine.history.cleared ++ [(machine.server.sessions index).sessionId] := by
        simp [Frame.record, valid]
      intro sessionId real
      obtain ⟨placement, placed, known⟩ := debts sessionId real
      simp only [runFrame, events, unpushed, List.append_nil, turned, recorded]
      by_cases same : (machine.server.sessions index).sessionId = sessionId
      · have free : placement = .free := by
          by_contra held
          exact named.live index valid (by rwa [same]) (by rw [same]; exact known.mpr held)
        subst free
        exact ⟨.held thread, placed.acquire (by simp [Frame.owes, same]), by simp [same]⟩
      · refine ⟨placement, placed.stay ?_, ?_⟩
        · rw [top]
          simp [Frame.owes, same]
        · rw [List.mem_append, known, List.mem_singleton]
          simp [Ne.symm same]
    · refine debts.keep thread (fun sessionId => ?_) (fun sessionId => ?_) ?_
      · rw [top]
        simp [Frame.turn, Frame.disconnectTurn, valid, Frame.owes]
      · rw [events, unpushed, List.append_nil]
      · simp [Frame.record, valid]
  | close => exact holds .clearSending rfl (by simp) (by simp) rfl
  | clearSending => exact holds .pushPending rfl (by simp) (by simp) rfl
  | pushPending => exact holds .readSessionId rfl (by simp) (by simp) rfl
  | readSessionId => exact holds (.pushEvent _) rfl (by simp) (by simp) rfl
  | pushEvent pushed =>
    have carried : pushed = cleared := fits
    subst carried
    intro sessionId real
    obtain ⟨placement, placed, known⟩ := debts sessionId real
    have given : ((Frame.turn env machine.server bound
        (.disconnect index (.pushEvent pushed) pushed)).2 ++ rest).any (Frame.owes sessionId) =
        false := below sessionId
    simp only [runFrame, events, Frame.pushes, List.count_append, Frame.record]
    by_cases same : pushed = sessionId
    · subst same
      have held := placed.holder thread (by rw [top]; simp [Frame.owes])
      subst held
      refine ⟨.pending, ?_, by simp [known]⟩
      simpa using placed.launch given
    · refine ⟨placement, ?_, known⟩
      have other : List.count (⟨.disconnected, sessionId, []⟩ : NetworkEvent)
          [⟨.disconnected, pushed, []⟩] = 0 := by
        simp [same]
      rw [other, Nat.add_zero]
      refine placed.stay (given.trans ?_)
      rw [top]
      simp [Frame.owes, same, below sessionId]

theorem moves {action : Turn Thread} (debts : Debts machine) (named : Named machine)
    (shaped : Shaped machine) (mode : env.architectureType = .centralized)
    (moves : Moves env machine action next) : Debts next := by
  have begun (thread : Option Thread) (idle : machine.threads thread = []) {frames : List Frame}
      (none : ∀ sessionId, frames.any (Frame.owes sessionId) = false) {server : Server}
      (events : server.eventQueue = machine.server.eventQueue) :
      Debts { machine with
        server := server
        threads := Function.update machine.threads thread frames } :=
    debts.keep thread (fun sessionId => by rw [none, idle]; rfl) (fun _ => by rw [events]) rfl
  cases moves with
  | run thread bound frame rest top =>
    cases frame with
    | disconnect index pc cleared => exact debts.runDisconnect named shaped mode bound top
    | _ => exact debts.runOther mode bound top (by simp)
  | accept idle => exact begun none idle (fun _ => rfl) rfl
  | acceptFailed idle => exact begun none idle (fun _ => rfl) rfl
  | worker thread position completion found idle => exact begun (some thread) idle (fun _ => rfl) rfl
  | requestSendMsg thread sessionId payload idle =>
    exact begun (some thread) idle (fun _ => rfl) rfl
  | requestDisconnectSession thread sessionId idle =>
    exact begun (some thread) idle (fun _ => rfl) rfl
  | receive | transmit | fail => exact debts

end Debts

structure Accounts (machine : Machine Thread) : Prop where
  shaped : Shaped machine
  named : Named machine
  debts : Debts machine

omit [DecidableEq Thread] in
theorem start_accounts : Accounts (start env : Machine Thread) := by
  have unnamed (index : Index) :
      extractUniqueId (((start env : Machine Thread).server.sessions index).sessionId) = 0 := by
    have zero : extractUniqueId 0 = 0 := by decide
    exact zero
  have idle (thread : Option Thread) (frame : Frame) :
      frame ∉ (start env : Machine Thread).threads thread := List.not_mem_nil
  have uncleared (sessionId : SessionId) :
      sessionId ∉ (start env : Machine Thread).history.cleared := List.not_mem_nil
  refine ⟨start_shaped, ?_, ?_⟩
  · exact ⟨Nat.one_pos, fun index real => absurd (unnamed index) real,
      fun sessionId member => absurd member (uncleared sessionId),
      fun index _ real => absurd (unnamed index) real,
      fun thread frame member => absurd member (idle thread frame)⟩
  · exact fun sessionId _ => ⟨.free, ⟨rfl, fun _ => rfl⟩,
      fun member => absurd member (uncleared sessionId), fun held => absurd rfl held⟩

theorem reachable_accounts {machine : Machine Thread} (mode : env.architectureType = .centralized)
    (reached : Reachable (step env) (Guarded Orderly) (start env) machine) : Accounts machine := by
  refine reached.invariant start_accounts fun machine action next accounts orderly taken => ?_
  have moves := step_moves taken
  exact ⟨accounts.shaped.moves moves, accounts.named.moves accounts.shaped orderly moves,
    accounts.debts.moves accounts.named accounts.shaped mode moves⟩

/-- The events that the game layer has been given for an id, of the sessions that clients had: the
unique part of a constructed session's id is 0. -/
structure Accounted (machine : Machine Thread) : Prop where
  pushed : ∀ thread index sessionId cleared,
    .disconnect index (.pushEvent sessionId) cleared ∈ machine.threads thread → sessionId = cleared
  disconnected : (∀ thread index pc cleared,
      .disconnect index pc cleared ∉ machine.threads thread) →
    ∀ sessionId ∈ machine.history.cleared, extractUniqueId sessionId ≠ 0 →
      machine.server.eventQueue.count ⟨.disconnected, sessionId, []⟩ = 1
  live : ∀ index, (machine.server.sessions index).valid = true →
    extractUniqueId (machine.server.sessions index).sessionId ≠ 0 →
      machine.server.eventQueue.count
        ⟨.disconnected, (machine.server.sessions index).sessionId, []⟩ = 0

omit [DecidableEq Thread] in
theorem Accounts.accounted {machine : Machine Thread} (accounts : Accounts machine) :
    Accounted machine where
  pushed thread index sessionId cleared member := accounts.named.fits thread _ member
  disconnected returned sessionId member real := by
    obtain ⟨placement, placed, known⟩ := accounts.debts sessionId real
    cases placement with
    | free => exact absurd rfl (known.mp member)
    | held thread =>
      have owed := (placed.2 thread).mpr rfl
      obtain ⟨frame, above, owes⟩ := List.any_eq_true.mp owed
      cases frame with
      | disconnect index pc cleared => exact absurd above (returned thread index pc cleared)
      | _ => cases owes
    | pending => exact placed.1
  live index valid real := by
    obtain ⟨placement, placed, known⟩ := accounts.debts _ real
    cases placement with
    | free => exact placed.1
    | held thread => exact absurd (known.mpr nofun) (accounts.named.live index valid real)
    | pending => exact absurd (known.mpr nofun) (accounts.named.live index valid real)

/-- In a run that leaves the id of a slot alone while a disconnect has yet to read it, the
DISCONNECTED events are those of the disconnected sessions. -/
theorem disconnected_events_account {machine : Machine Thread}
    (mode : env.architectureType = .centralized)
    (reached : Reachable (step env) (Guarded Orderly) (start env) machine) : Accounted machine :=
  (reachable_accounts mode reached).accounted

-- The slot goes to the second client between the last two statements of the disconnect.
theorem disconnected_event_of_next_client :
    ¬ ∀ machine : Machine (Fin 2),
      Reachable (step Server.oneSlot) Always (start Server.oneSlot) machine → Accounted machine := by
  intro always
  obtain ⟨machine, reached, seen⟩ := Reachable.observe (step Server.oneSlot)
    (start Server.oneSlot : Machine (Fin 2))
    (.accept :: .run none true :: acceptClient ++
      .requestDisconnectSession 1 1 :: List.replicate 5 (.run (some 1) true) ++
      .accept :: List.replicate 3 (.run none true) ++ acceptClient ++
      List.replicate 2 (.run (some 1) true))
    (fun machine => (machine.server.sessions 0).valid = true ∧
      (machine.server.sessions 0).sessionId = 2 ∧
      machine.server.eventQueue.count ⟨.disconnected, 2, []⟩ = 1) (by decide +kernel)
  obtain ⟨valid, second, counted⟩ := of_decide_eq_true seen
  have none := (always machine reached).live 0 valid (by rw [second]; decide)
  rw [second, counted] at none
  exact absurd none (by decide)

-- The first client's disconnect returns before its slot goes to the second one.
theorem disconnected_events_account_reused_slot :
    ∃ machine : Machine (Fin 2), machine.history.cleared = [1] ∧
      (machine.server.sessions 0).sessionId = 2 ∧ Accounted machine := by
  obtain ⟨machine, reached, seen⟩ := Reachable.observe
    (restrict (step Server.oneSlot) (Guarded Orderly)) (start Server.oneSlot : Machine (Fin 2))
    (.accept :: .run none true :: acceptClient ++
      .requestDisconnectSession 1 1 :: List.replicate 7 (.run (some 1) true) ++
      .accept :: List.replicate 3 (.run none true) ++ acceptClient)
    (fun machine => machine.history.cleared = [1] ∧ (machine.server.sessions 0).sessionId = 2)
    (by decide +kernel)
  obtain ⟨first, second⟩ := of_decide_eq_true seen
  exact ⟨machine, first, second, disconnected_events_account rfl reached.unrestrict⟩

end Machine

end MiniGames
