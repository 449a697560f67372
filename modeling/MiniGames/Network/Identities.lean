import MiniGames.Network.ThreadSteps

set_option autoImplicit false

namespace MiniGames

open Circular Runs

namespace Server

structure Linked (session : CSession) : Prop where
  socket : ∀ socket, session.socket = some socket → socket = session.incarnation
  operation : session.sendOverlapped.operation = .send

theorem linked_statement (session next : CSession) (statement : Statement session next)
    (linked : Linked session) : Linked next := by
  obtain ⟨socket, operation⟩ := linked
  cases statement with
  | dropSocket => exact ⟨nofun, operation⟩
  | armSend => exact ⟨socket, rfl⟩
  | _ => exact ⟨socket, operation⟩

theorem linked_store {session : CSession} (pc : InitializePc) (clientSocket : Socket)
    (sessionId : SessionId) (linked : Linked session) :
    Linked (pc.store clientSocket sessionId session) := by
  obtain ⟨socket, operation⟩ := linked
  cases pc with
  | socket =>
    refine ⟨?_, operation⟩
    rintro _ same
    exact (Option.some.inj same).symm
  | overlapped => exact ⟨socket, rfl⟩
  | _ => exact ⟨socket, operation⟩

structure Tied (server : Server) : Prop where
  linked : server.Every Linked
  requests : ∀ request ∈ server.outstanding, request.socket = request.incarnation

structure Incarnations (allowed : Nat → Prop) (server : Server) : Prop where
  sessions : ∀ index, allowed (server.sessions index).incarnation
  outstanding : ∀ request ∈ server.outstanding, allowed request.incarnation
  completions : ∀ completion ∈ server.completions, allowed completion.request.incarnation

theorem tied_stable (env : Environment) : Stable env Tied where
  statement := by
    rintro server index session ⟨linked, requests⟩ statement
    exact ⟨linked.modify (linked_statement _ _ statement), requests⟩
  closesocket := by
    rintro server socket ⟨linked, requests⟩
    exact ⟨linked, fun request member => requests request (List.mem_filter.mp member).1⟩
  post := by
    rintro server index operation segments ⟨linked, requests⟩
    simp only [post]
    split
    · next socket opened =>
      split
      · refine ⟨linked, fun request member => ?_⟩
        rcases List.mem_append.mp member with posted | posted
        · exact requests request posted
        · rw [List.mem_singleton.mp posted]
          exact (linked index).socket socket opened
      · exact ⟨linked, requests⟩
    · exact ⟨linked, requests⟩
  complete := by
    rintro server position request result bytes ⟨linked, requests⟩ found
    exact ⟨linked, fun request member => requests request (List.mem_of_mem_eraseIdx member)⟩
  dequeueCompletion := by
    rintro server position ⟨linked, requests⟩
    exact ⟨linked, requests⟩
  bookkeeping := by
    rintro server next ⟨linked, requests⟩ sessions outstanding completions
    exact ⟨fun index => by rw [sessions]; exact linked index, by rw [outstanding]; exact requests⟩

theorem incarnations_stable (env : Environment) (allowed : Nat → Prop) :
    Stable env (Incarnations allowed) where
  statement := by
    rintro server index session ⟨sessions, outstanding, completions⟩ statement
    refine ⟨fun other => ?_, outstanding, completions⟩
    rw [modify_sessions]
    split
    · rw [statement_incarnation statement]
      exact sessions index
    · exact sessions other
  closesocket := by
    rintro server socket ⟨sessions, outstanding, completions⟩
    refine ⟨sessions, fun request member => outstanding request (List.mem_filter.mp member).1,
      fun completion member => ?_⟩
    rcases List.mem_append.mp member with queued | closed
    · exact completions completion queued
    · obtain ⟨request, cancelled, rfl⟩ := List.mem_map.mp closed
      exact outstanding request (List.mem_filter.mp cancelled).1
  post := by
    rintro server index operation segments ⟨sessions, outstanding, completions⟩
    simp only [post]
    split
    · split
      · refine ⟨sessions, fun request member => ?_, completions⟩
        rcases List.mem_append.mp member with posted | posted
        · exact outstanding request posted
        · rw [List.mem_singleton.mp posted]
          exact sessions index
      · exact ⟨sessions, outstanding, completions⟩
    · exact ⟨sessions, outstanding, completions⟩
  complete := by
    rintro server position request result bytes ⟨sessions, outstanding, completions⟩ found
    refine ⟨sessions, fun request member => outstanding request (List.mem_of_mem_eraseIdx member),
      fun completion member => ?_⟩
    rcases List.mem_append.mp member with queued | completed
    · exact completions completion queued
    · rw [List.mem_singleton.mp completed]
      exact outstanding request (List.mem_of_getElem? found)
  dequeueCompletion := by
    rintro server position ⟨sessions, outstanding, completions⟩
    exact ⟨sessions, outstanding, fun completion member =>
      completions completion (List.mem_of_mem_eraseIdx member)⟩
  bookkeeping := by
    rintro server next ⟨sessions, outstanding, completions⟩ same flying queued
    exact ⟨by rw [same]; exact sessions, by rw [flying]; exact outstanding,
      by rw [queued]; exact completions⟩

theorem Incarnations.mono {allowed more : Nat → Prop} {server : Server}
    (incarnations : server.Incarnations allowed) (implied : ∀ incarnation, allowed incarnation →
      more incarnation) : server.Incarnations more :=
  ⟨fun index => implied _ (incarnations.sessions index),
    fun request member => implied _ (incarnations.outstanding request member),
    fun completion member => implied _ (incarnations.completions completion member)⟩

end Server

namespace Frame

theorem turn_identity (env : Environment) (server : Server) (frame : Frame) (bound : Bool)
    (other : ∀ pc index clientSocket sessionId,
      frame ≠ .initializeSession pc index clientSocket sessionId) (index : Index) :
    ((frame.turn env server bound).1.sessions index).sessionId =
        (server.sessions index).sessionId ∧
      ((frame.turn env server bound).1.sessions index).incarnation =
        (server.sessions index).incarnation ∧
      (((frame.turn env server bound).1.sessions index).valid = true →
        (server.sessions index).valid = true) := by
  have stable : Server.Stable env fun next => ∀ index,
      (next.sessions index).sessionId = (server.sessions index).sessionId ∧
        (next.sessions index).incarnation = (server.sessions index).incarnation ∧
        ((next.sessions index).valid = true → (server.sessions index).valid = true) := by
    refine Server.slots_stable env (fun index session =>
      session.sessionId = (server.sessions index).sessionId ∧
        session.incarnation = (server.sessions index).incarnation ∧
        (session.valid = true → (server.sessions index).valid = true)) ?_
    intro index session next statement same
    cases statement with
    | invalidate => exact ⟨same.1, same.2.1, nofun⟩
    | _ => exact same
  refine stable.turn bound frame ?_ (fun _ => ⟨rfl, rfl, id⟩) index
  intro pc slot clientSocket sessionId same
  exact absurd same (other pc slot clientSocket sessionId)

theorem record_ids {server : Server} {history : History} {frame : Frame}
    (other : frame.issues = false) : (frame.record server history).ids = history.ids := by
  cases frame with
  | disconnect index pc cleared =>
    cases pc with
    | exchange =>
      simp only [record]
      split <;> rfl
    | _ => rfl
  | send index target pc =>
    cases pc with
    | enqueue payload =>
      simp only [record]
      split <;> rfl
    | _ => rfl
  | processAccept clientSocket => cases other
  | _ => rfl

/-- What the accept thread knows about the socket that it is preparing a slot for. -/
def Identifies (server : Server) (history : History) : Frame → Prop
  | .processAccept clientSocket =>
      0 < clientSocket ∧ clientSocket ≤ server.accepted ∧ server.Incarnations (· ≠ clientSocket)
  | .initializeSession pc index clientSocket sessionId =>
      0 < clientSocket ∧ clientSocket ≤ server.accepted ∧ history.ids clientSocket = sessionId ∧
        extractIndex sessionId = index ∧
        (pc = .socket → server.Incarnations (· ≠ clientSocket)) ∧
        (pc ≠ .socket → (server.sessions index).incarnation = clientSocket) ∧
        (pc ≠ .socket → pc ≠ .sessionId → (server.sessions index).sessionId = sessionId)
  | .bindIOCP index clientSocket sessionId | .announceConnect index clientSocket sessionId =>
      0 < clientSocket ∧ clientSocket ≤ server.accepted ∧ history.ids clientSocket = sessionId ∧
        (server.sessions index).incarnation = clientSocket ∧
        (server.sessions index).sessionId = sessionId
  | _ => True

theorem Identifies.keep {server next : Server} {history later : History} {frame : Frame}
    (identifies : frame.Identifies server history)
    (incarnations : ∀ index, (next.sessions index).incarnation =
      (server.sessions index).incarnation)
    (ids : ∀ index, (next.sessions index).sessionId = (server.sessions index).sessionId)
    (accepted : server.accepted ≤ next.accepted)
    (unused : ∀ socket, server.Incarnations (· ≠ socket) → next.Incarnations (· ≠ socket))
    (same : later.ids = history.ids) : frame.Identifies next later := by
  cases frame with
  | processAccept clientSocket =>
    obtain ⟨some, early, new⟩ := identifies
    exact ⟨some, Nat.le_trans early accepted, unused _ new⟩
  | initializeSession pc index clientSocket sessionId =>
    obtain ⟨some, early, named, slot, new, stored, known⟩ := identifies
    refine ⟨some, Nat.le_trans early accepted, by rw [same]; exact named, slot,
      fun first => unused _ (new first), ?_, ?_⟩
    · rw [incarnations]
      exact stored
    · rw [ids]
      exact known
  | bindIOCP index clientSocket sessionId | announceConnect index clientSocket sessionId =>
    obtain ⟨some, early, named, stored, known⟩ := identifies
    exact ⟨some, Nat.le_trans early accepted, by rw [same]; exact named,
      by rw [incarnations]; exact stored, by rw [ids]; exact known⟩
  | _ => trivial

theorem Leads.identifies {env : Environment} {server next : Server} {history : History}
    {frame : Frame} {frames : List Frame} (leads : Leads env server frame frames)
    (other : frame.issues = false)
    (stored : ∀ pc index clientSocket sessionId,
      frame ≠ .initializeSession pc index clientSocket sessionId)
    (known : frame.Identifies next history) :
    ∀ below ∈ frames, below.Identifies next history := by
  cases leads with
  | processAccept => cases other
  | store | stored => exact absurd rfl (stored _ _ _ _)
  | bound index clientSocket sessionId =>
    intro below created
    cases List.mem_singleton.mp created
    exact known
  | _ => simp [Identifies, startDisconnect]

theorem worker_identifies {server : Server} {history : History} {frame : Frame}
    (worker : frame.accepting = false) : frame.Identifies server history := by
  cases frame <;> trivial

end Frame

namespace Machine

variable {env : Environment} {Thread : Type} [DecidableEq Thread]

structure Identified (machine : Machine Thread) : Prop where
  shaped : Shaped machine
  tied : machine.server.Tied
  bounded : machine.server.Incarnations (· ≤ machine.server.accepted)
  frames : ∀ thread, ∀ frame ∈ machine.threads thread,
    frame.Identifies machine.server machine.history
  placed : ∀ index, (machine.server.sessions index).incarnation ≠ 0 →
    extractIndex (machine.history.ids (machine.server.sessions index).incarnation) = index
  -- Initialize stores the socket first and the id right after it.
  named : ∀ index, machine.history.ids (machine.server.sessions index).incarnation =
      (machine.server.sessions index).sessionId ∨
    ∃ sessionId, .initializeSession .sessionId index
      (machine.server.sessions index).incarnation sessionId ∈ machine.threads none

namespace Identified

variable {machine next : Machine Thread} {thread : Option Thread} {rest : List Frame}

omit [DecidableEq Thread] in
theorem keep (identified : Identified machine)
    (incarnations : ∀ index, (next.server.sessions index).incarnation =
      (machine.server.sessions index).incarnation)
    (sessionIds : ∀ index, (next.server.sessions index).sessionId =
      (machine.server.sessions index).sessionId)
    (accepted : machine.server.accepted ≤ next.server.accepted)
    (unused : ∀ socket, machine.server.Incarnations (· ≠ socket) →
      next.server.Incarnations (· ≠ socket))
    (ids : next.history.ids = machine.history.ids)
    (frames : ∀ thread, ∀ frame ∈ next.threads thread, frame ∈ machine.threads thread ∨
      frame.Identifies next.server next.history)
    (storing : ∀ index clientSocket sessionId,
      .initializeSession .sessionId index clientSocket sessionId ∈ machine.threads none →
      .initializeSession .sessionId index clientSocket sessionId ∈ next.threads none)
    (shaped : Shaped next) (tied : next.server.Tied)
    (bounded : next.server.Incarnations (· ≤ next.server.accepted)) : Identified next where
  shaped := shaped
  tied := tied
  bounded := bounded
  frames thread frame member := by
    rcases frames thread frame member with old | new
    · exact (identified.frames thread frame old).keep incarnations sessionIds accepted unused ids
    · exact new
  placed index some := by
    rw [incarnations] at some ⊢
    rw [ids]
    exact identified.placed index some
  named index := by
    rw [incarnations, ids, sessionIds]
    exact (identified.named index).imp_right fun ⟨sessionId, pending⟩ =>
      ⟨sessionId, storing index _ sessionId pending⟩

theorem runQuiet (identified : Identified machine) (bound : Bool) {frame : Frame}
    (top : machine.threads thread = frame :: rest)
    (other : ∀ pc index clientSocket sessionId,
      frame ≠ .initializeSession pc index clientSocket sessionId)
    (recorded : (frame.record machine.server machine.history).ids = machine.history.ids)
    (new : frame.Identifies (frame.turn env machine.server bound).1
        (frame.record machine.server machine.history) →
      ∀ below ∈ (frame.turn env machine.server bound).2,
        below.Identifies (frame.turn env machine.server bound).1
          (frame.record machine.server machine.history))
    (shaped : Shaped (machine.runFrame env thread bound frame rest))
    (tied : (machine.runFrame env thread bound frame rest).server.Tied)
    (bounded : (machine.runFrame env thread bound frame rest).server.Incarnations
      (· ≤ (machine.runFrame env thread bound frame rest).server.accepted)) :
    Identified (machine.runFrame env thread bound frame rest) := by
  have identity := Frame.turn_identity env machine.server frame bound other
  have accepted := (Frame.turn_counters env machine.server frame bound).1
  have unused (socket : Socket) : machine.server.Incarnations (· ≠ socket) →
      (frame.turn env machine.server bound).1.Incarnations (· ≠ socket) :=
    (Server.incarnations_stable env (· ≠ socket)).turn bound frame
      fun pc index clientSocket sessionId same =>
        absurd same (other pc index clientSocket sessionId)
  have before := identified.frames thread frame (by rw [top]; exact List.mem_cons_self)
  refine identified.keep (fun index => (identity index).2.1) (fun index => (identity index).1)
    (Nat.le_of_eq accepted.symm) unused recorded (fun slot below member => ?_) ?_ shaped tied bounded
  · rcases runFrame_new_or_old bound top member with created | old
    · refine .inr (new (before.keep (fun index => (identity index).2.1)
        (fun index => (identity index).1) (Nat.le_of_eq accepted.symm) unused recorded) below created)
    · exact .inl old
  · intro index clientSocket sessionId pending
    exact runFrame_keeps bound top pending fun same => other _ _ _ _ same.symm

theorem runAccept (identified : Identified machine) (bound : Bool) {clientSocket : Socket}
    {index : Index} {more : List Index}
    (top : machine.threads thread = .processAccept clientSocket :: rest)
    (available : machine.server.availableIndices = index :: more)
    (shaped : Shaped (machine.runFrame env thread bound (.processAccept clientSocket) rest))
    (tied : (machine.runFrame env thread bound (.processAccept clientSocket) rest).server.Tied)
    (bounded : (machine.runFrame env thread bound (.processAccept clientSocket)
      rest).server.Incarnations (· ≤ machine.server.accepted)) :
    Identified (machine.runFrame env thread bound (.processAccept clientSocket) rest) := by
  have here : Frame.processAccept clientSocket ∈ machine.threads thread := by
    rw [top]
    exact List.mem_cons_self
  obtain ⟨some, early, unused⟩ := identified.frames thread _ here
  have turned : Frame.turn env machine.server bound (.processAccept clientSocket) =
      ({ machine.server with
          availableIndices := more
          sessionIdCounter := machine.server.sessionIdCounter + 1 },
        [.initializeSession .socket index clientSocket
          (makeSessionId index (machine.server.sessionIdCounter &&& sessionUniqueMask))]) := by
    simp only [Frame.turn, Frame.processAcceptTurn, available]
  have recorded : ((Frame.processAccept clientSocket).record machine.server machine.history).ids =
      Function.update machine.history.ids clientSocket
        (makeSessionId index (machine.server.sessionIdCounter &&& sessionUniqueMask)) := by
    simp only [Frame.record, available]
  have other (slot : Index) : Function.update machine.history.ids clientSocket
      (makeSessionId index (machine.server.sessionIdCounter &&& sessionUniqueMask))
        (machine.server.sessions slot).incarnation =
      machine.history.ids (machine.server.sessions slot).incarnation :=
    Function.update_of_ne (unused.sessions slot) _ _
  refine ⟨shaped, tied, ?_, fun slot below member => ?_, fun slot nonzero => ?_, fun slot => ?_⟩
  · simp only [runFrame, turned] at bounded ⊢
    exact bounded
  · rcases runFrame_threads bound member with created | old
    · rw [turned, List.mem_singleton] at created
      subst created
      simp only [runFrame, turned]
      refine ⟨some, early, ?_, extractIndex_makeSessionId _ _, fun _ => ?_, fun first => absurd rfl first,
        fun first => absurd rfl first⟩
      · rw [recorded, Function.update_self]
      · exact ⟨unused.sessions, unused.outstanding, unused.completions⟩
    · exact Frame.worker_identifies (identified.shaped.alone top rfl rfl old).2
  · simp only [runFrame, turned, recorded] at nonzero ⊢
    rw [other]
    exact identified.placed slot nonzero
  · simp only [runFrame, turned, recorded]
    rw [other]
    obtain named | ⟨sessionId, pending⟩ := identified.named slot
    · exact .inl named
    · have first := identified.shaped.acceptor here rfl
      subst first
      have none := identified.shaped.last top rfl
      rw [top, none] at pending
      cases List.mem_singleton.mp pending

theorem runInitialize (identified : Identified machine) (bound : Bool) {pc : InitializePc}
    {index : Index} {clientSocket : Socket} {sessionId : SessionId}
    (top : machine.threads thread = .initializeSession pc index clientSocket sessionId :: rest)
    (shaped : Shaped (machine.runFrame env thread bound
      (.initializeSession pc index clientSocket sessionId) rest))
    (tied : (machine.runFrame env thread bound
      (.initializeSession pc index clientSocket sessionId) rest).server.Tied)
    (bounded : (machine.runFrame env thread bound
      (.initializeSession pc index clientSocket sessionId) rest).server.Incarnations
        (· ≤ machine.server.accepted)) :
    Identified (machine.runFrame env thread bound
      (.initializeSession pc index clientSocket sessionId) rest) := by
  have here : Frame.initializeSession pc index clientSocket sessionId ∈ machine.threads thread := by
    rw [top]
    exact List.mem_cons_self
  obtain ⟨some, early, named, slot, new, stored, known⟩ := identified.frames thread _ here
  have none := identified.shaped.last top rfl
  have first := identified.shaped.acceptor here rfl
  subst first none
  have incarnation (other : Index) :
      ((machine.server.modify index (pc.store clientSocket sessionId)).sessions
        other).incarnation =
      if other = index ∧ pc = .socket then clientSocket
      else (machine.server.sessions other).incarnation := by
    rw [Server.modify_sessions]
    by_cases same : other = index <;> simp [same]
  have ids (other : Index) :
      ((machine.server.modify index (pc.store clientSocket sessionId)).sessions other).sessionId =
      if other = index ∧ pc = .sessionId then sessionId
      else (machine.server.sessions other).sessionId := by
    rw [Server.modify_sessions]
    by_cases same : other = index <;> simp [same]
  have after : ((machine.server.modify index (pc.store clientSocket sessionId)).sessions
      index).incarnation = clientSocket := by
    rw [incarnation]
    by_cases begins : pc = .socket
    · simp [begins]
    · simp [begins, stored begins]
  have settled (left : pc ≠ .socket) : ((machine.server.modify index
      (pc.store clientSocket sessionId)).sessions index).sessionId = sessionId := by
    rw [ids]
    by_cases storing : pc = .sessionId
    · simp [storing]
    · simp [storing, known left storing]
  refine ⟨shaped, tied, bounded, fun owner below member => ?_, fun other nonzero => ?_,
    fun other => ?_⟩
  · rcases runFrame_threads bound member with created | old
    · cases pc with
      | socket =>
        cases List.mem_singleton.mp created
        exact ⟨some, early, named, slot, by simp, fun _ => after, fun _ other => absurd rfl other⟩
      | overlapped =>
        cases List.mem_singleton.mp created
        exact ⟨some, early, named, after, settled (by simp)⟩
      | _ =>
        cases List.mem_singleton.mp created
        exact ⟨some, early, named, slot, by simp, fun _ => after, fun _ _ => settled (by simp)⟩
    · exact Frame.worker_identifies (identified.shaped.alone top rfl rfl old).2
  · simp only [runFrame, Frame.turn, Frame.record] at nonzero ⊢
    by_cases same : other = index
    · rw [same, after, named]
      exact slot
    · rw [incarnation, if_neg fun both => same both.1] at nonzero ⊢
      exact identified.placed other nonzero
  · simp only [runFrame, Frame.turn, Frame.record]
    by_cases same : other = index
    · rw [same, after, named]
      by_cases begins : pc = .socket
      · subst begins
        exact .inr ⟨sessionId, by simp [InitializePc.next]⟩
      · exact .inl (settled begins).symm
    · rw [incarnation, if_neg fun both => same both.1, ids, if_neg fun both => same both.1]
      obtain known | ⟨pending, storing⟩ := identified.named other
      · exact .inl known
      · rw [top] at storing
        cases List.mem_singleton.mp storing
        exact absurd rfl same

theorem moves {action : Turn Thread} (identified : Identified machine)
    (moves : Moves env machine action next) : Identified next := by
  have shaped := identified.shaped.moves moves
  have tied : next.server.Tied := by
    refine moves.stable (Server.tied_stable env) ?_ identified.tied
    intro thread bound pc index clientSocket sessionId rest _ top
    exact ⟨identified.tied.linked.modify (Server.linked_store pc clientSocket sessionId),
      identified.tied.requests⟩
  have within : next.server.Incarnations (· ≤ machine.server.accepted) := by
    refine moves.stable (Server.incarnations_stable env _) ?_ identified.bounded
    intro thread bound pc index clientSocket sessionId rest _ top
    obtain ⟨sessions, outstanding, completions⟩ := identified.bounded
    refine ⟨fun other => ?_, outstanding, completions⟩
    obtain ⟨_, early, _⟩ := identified.frames thread
      (.initializeSession pc index clientSocket sessionId) (by rw [top]; exact List.mem_cons_self)
    rw [Server.modify_sessions]
    split
    · rw [InitializePc.store_incarnation]
      split
      · exact early
      · exact sessions index
    · exact sessions other
  have bounded : next.server.Incarnations (· ≤ next.server.accepted) :=
    within.mono fun _ early => Nat.le_trans early moves.accepted
  have begun (thread : Option Thread) (idle : machine.threads thread = []) {frames : List Frame}
      {server : Server} (same : server.sessions = machine.server.sessions)
      (accepted : machine.server.accepted ≤ server.accepted)
      (unused : ∀ socket, machine.server.Incarnations (· ≠ socket) →
        server.Incarnations (· ≠ socket))
      (shaped : Shaped { machine with
        server := server
        threads := Function.update machine.threads thread frames })
      (tied : server.Tied) (bounded : server.Incarnations (· ≤ server.accepted))
      (new : ∀ frame ∈ frames, frame.Identifies server machine.history) :
      Identified { machine with
        server := server
        threads := Function.update machine.threads thread frames } := by
    refine identified.keep (fun _ => by rw [same]) (fun _ => by rw [same]) accepted unused rfl
      (fun owner frame member => ?_) (fun index clientSocket sessionId storing => ?_)
      shaped tied bounded
    · by_cases here : owner = thread
      · subst here
        exact .inr (new frame (by simpa using member))
      · exact .inl (by simpa [here] using member)
    · have other : none ≠ thread := by
        rintro rfl
        rw [idle] at storing
        cases storing
      simpa [other] using storing
  cases moves with
  | run thread bound frame rest top =>
    cases frame with
    | processAccept clientSocket =>
      cases available : machine.server.availableIndices with
      | nil =>
        refine identified.runQuiet bound top (by simp) ?_ (fun _ below created => ?_) shaped tied bounded
        · simp only [Frame.record, available]
        · simp [Frame.turn, Frame.processAcceptTurn, available] at created
      | cons index more => exact identified.runAccept bound top available shaped tied within
    | initializeSession pc index clientSocket sessionId =>
      exact identified.runInitialize bound top shaped tied within
    | _ =>
      exact identified.runQuiet bound top (by simp) (Frame.record_ids rfl)
        ((Frame.turn_leads env machine.server _ bound).identifies rfl (by simp)) shaped tied bounded
  | accept idle =>
    obtain ⟨sessions, outstanding, completions⟩ := identified.bounded
    refine begun none idle rfl (Nat.le_succ _) (fun socket unused => ?_) shaped tied bounded ?_
    · exact ⟨unused.sessions, unused.outstanding, unused.completions⟩
    · simp only [List.mem_cons, List.not_mem_nil, or_false, forall_eq_or_imp, forall_eq]
      refine ⟨trivial, Nat.succ_pos _, Nat.le_refl _, ?_⟩
      exact ⟨fun index => Nat.ne_of_lt (Nat.lt_succ_of_le (sessions index)),
        fun request member => Nat.ne_of_lt (Nat.lt_succ_of_le (outstanding request member)),
        fun completion member => Nat.ne_of_lt (Nat.lt_succ_of_le (completions completion member))⟩
  | acceptFailed idle =>
    exact begun none idle rfl (Nat.le_refl _) (fun _ => id) shaped tied bounded (by simp [Frame.Identifies])
  | worker thread position completion found idle =>
    exact begun (some thread) idle rfl (Nat.le_refl _)
      (fun socket => (Server.incarnations_stable env (· ≠ socket)).dequeueCompletion position)
      shaped tied bounded (by simp [Frame.Identifies])
  | requestSendMsg thread sessionId payload idle =>
    exact begun (some thread) idle rfl (Nat.le_refl _) (fun _ => id) shaped tied bounded
      (by simp [Frame.Identifies])
  | requestDisconnectSession thread sessionId idle =>
    exact begun (some thread) idle rfl (Nat.le_refl _) (fun _ => id) shaped tied bounded
      (by simp [Frame.Identifies])
  | receive position bytes request found receive fits =>
    refine identified.keep (fun index => ?_) (fun index => ?_) (Nat.le_refl _) (fun socket unused => ?_)
      rfl (fun _ _ => .inl) (fun _ _ _ => id) shaped tied bounded
    · simp only [Server.complete, Server.modify_sessions]
      split <;> simp_all
    · simp only [Server.complete, Server.modify_sessions]
      split <;> simp_all
    · have stable := Server.incarnations_stable env (· ≠ socket)
      have filled : (machine.server.modify request.index fun session =>
          { session with recvQ := Server.fill session.recvQ request.segments bytes }).Incarnations
            (· ≠ socket) := stable.statement request.index unused (.fill _ _)
      exact stable.complete true bytes.length filled found
  | transmit position count request found send some fits =>
    exact identified.keep (fun _ => rfl) (fun _ => rfl) (Nat.le_refl _)
      (fun socket unused =>
        (Server.incarnations_stable env (· ≠ socket)).complete true count unused found)
      rfl (fun _ _ => .inl) (fun _ _ _ => id) shaped tied bounded
  | fail position request found =>
    exact identified.keep (fun _ => rfl) (fun _ => rfl) (Nat.le_refl _)
      (fun socket unused =>
        (Server.incarnations_stable env (· ≠ socket)).complete false 0 unused found)
      rfl (fun _ _ => .inl) (fun _ _ _ => id) shaped tied bounded

end Identified

omit [DecidableEq Thread] in
theorem start_identified : Identified (start env : Machine Thread) where
  shaped := start_shaped
  tied := ⟨fun _ => ⟨nofun, rfl⟩, fun _ member => absurd member List.not_mem_nil⟩
  bounded := ⟨fun _ => Nat.le_refl 0, fun _ member => absurd member List.not_mem_nil,
    fun _ member => absurd member List.not_mem_nil⟩
  frames _ _ member := absurd member List.not_mem_nil
  placed _ some := absurd rfl some
  named _ := .inl rfl

theorem reachable_identified {permitted : Machine Thread → Turn Thread → Prop}
    {machine : Machine Thread}
    (reached : Reachable (step env) permitted (start env) machine) : Identified machine :=
  reached.invariant start_identified fun _ _ _ identified _ taken =>
    identified.moves (step_moves taken)

end Machine

end MiniGames
