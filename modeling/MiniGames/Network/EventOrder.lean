import MiniGames.Network.DisconnectEvents
import MiniGames.Network.SessionRings
import MiniGames.Shared.Logs

set_option autoImplicit false

namespace MiniGames

open Runs Token Logs

/-- What the game layer can rely on about an event, given those before it in the queue. -/
def Timely (earlier : List NetworkEvent) (event : NetworkEvent) : Prop :=
  match event.type with
  | .connected => ∀ before ∈ earlier, before.sessionId ≠ event.sessionId
  | .disconnected => ⟨.connected, event.sessionId, []⟩ ∈ earlier
  | .received => ⟨.connected, event.sessionId, []⟩ ∈ earlier ∧
      ∀ before ∈ earlier, before.type = .disconnected → before.sessionId ≠ event.sessionId

theorem Timely.connected {earlier : List NetworkEvent} {event : NetworkEvent}
    (timely : Timely earlier event) (other : event.type ≠ .connected) :
    ⟨.connected, event.sessionId, []⟩ ∈ earlier := by
  obtain ⟨type, sessionId, data⟩ := event
  cases type with
  | connected => exact absurd rfl other
  | disconnected => exact timely
  | received => exact timely.1

def Nested : List Frame → Prop
  | [] => True
  | .parse index poster :: below => below = [.postRecv index poster]
  | .deliver index poster _ :: below => below = [.parse index poster, .postRecv index poster]
  | _ :: below => Nested below

theorem Nested.tail {frame : Frame} {rest : List Frame} (nested : Nested (frame :: rest)) :
    Nested rest := by
  cases frame with
  | parse index poster =>
    cases nested
    trivial
  | deliver index poster bytes =>
    cases nested
    rfl
  | _ => exact nested

-- The frame handles what the receive of an incarnation brought, above the frame with the token.
def Frame.handles (incarnation : Nat) : Frame → Bool
  | .parse _ poster | .deliver _ poster _ => poster = incarnation
  | _ => false

theorem Nested.carries {incarnation : Nat} {frame : Frame} {frames : List Frame}
    (nested : Nested frames) (member : frame ∈ frames) (handles : frame.handles incarnation = true) :
    carries incarnation frames = true := by
  induction frames with
  | nil => cases member
  | cons top rest ih =>
    rcases List.mem_cons.mp member with rfl | below
    · cases frame with
      | parse index poster | deliver index poster bytes =>
        cases nested
        simpa [MiniGames.carries, Frame.receives, Frame.handles] using handles
      | _ => cases handles
    · have carried := ih nested.tail below
      simp only [MiniGames.carries, List.any_cons, Bool.or_eq_true] at carried ⊢
      exact .inr carried

theorem Frame.Leads.nested {env : Environment} {server : Server} {frame : Frame}
    {frames rest : List Frame} (leads : Leads env server frame frames)
    (last : frame.bottom = true → rest = []) (nested : Nested (frame :: rest)) :
    Nested (frames ++ rest) := by
  have below := nested.tail
  cases leads with
  | parsePackets index poster size =>
    rw [last rfl]
    rfl
  | packet index poster ring bytes turned =>
    cases nested
    rfl
  | send index target pc other =>
    generalize (Frame.sendTurn env server index pc).2 = next
    exact below
  | _ => exact below

-- Only AcceptThread calls ProcessAccept.
theorem Frame.Leads.accepts {env : Environment} {server : Server} {frame : Frame}
    {frames : List Frame} (leads : Leads env server frame frames) (clientSocket : Socket) :
    .processAccept clientSocket ∉ frames := by
  cases leads with
  | send index target pc other =>
    generalize (Frame.sendTurn env server index pc).2 = next
    simp
  | _ => simp [Frame.startDisconnect]

namespace Machine

variable {env : Environment} {Thread : Type} [DecidableEq Thread]

theorem nested_moves {machine next : Machine Thread} {action : Turn Thread}
    (nested : ∀ thread, Nested (machine.threads thread)) (shaped : Shaped machine)
    (moves : Moves env machine action next) (thread : Option Thread) :
    Nested (next.threads thread) := by
  have begun (starter : Option Thread) {frames : List Frame} (new : Nested frames) :
      Nested (Function.update machine.threads starter frames thread) := by
    rw [Function.update_apply]
    split
    · exact new
    · exact nested thread
  cases moves with
  | run runner bound frame rest top =>
    apply begun runner
    have before := nested runner
    rw [top] at before
    exact (Frame.turn_leads env machine.server frame bound).nested (shaped.last top) before
  | accept => exact begun none trivial
  | acceptFailed => exact begun none trivial
  | worker caller => exact begun (some caller) trivial
  | requestSendMsg caller => exact begun (some caller) trivial
  | requestDisconnectSession caller => exact begun (some caller) trivial
  | receive | transmit | fail => exact nested thread

structure Assigned (machine : Machine Thread) : Prop where
  unused : ∀ socket, machine.server.accepted < socket → machine.history.ids socket = 0
  waiting : ∀ thread clientSocket, .processAccept clientSocket ∈ machine.threads thread →
    machine.history.ids clientSocket = 0
  issued : ∀ socket, extractUniqueId (machine.history.ids socket) ≠ 0 →
    (extractUniqueId (machine.history.ids socket)).toNat < machine.server.sessionIdCounter.toNat
  injective : ∀ socket other, extractUniqueId (machine.history.ids socket) ≠ 0 →
    machine.history.ids other = machine.history.ids socket → other = socket

namespace Assigned

variable {machine next : Machine Thread} {thread : Option Thread} {rest : List Frame}

omit [DecidableEq Thread] in
theorem keep (assigned : Assigned machine) (ids : next.history.ids = machine.history.ids)
    (counter : next.server.sessionIdCounter = machine.server.sessionIdCounter)
    (accepted : machine.server.accepted ≤ next.server.accepted)
    (waiting : ∀ thread clientSocket, .processAccept clientSocket ∈ next.threads thread →
      .processAccept clientSocket ∈ machine.threads thread ∨
        machine.server.accepted < clientSocket) : Assigned next := by
  refine ⟨fun socket later => ?_, fun thread clientSocket member => ?_, ?_, ?_⟩
  · rw [ids]
    exact assigned.unused socket (Nat.lt_of_le_of_lt accepted later)
  · rw [ids]
    rcases waiting thread clientSocket member with old | new
    · exact assigned.waiting thread clientSocket old
    · exact assigned.unused clientSocket new
  · rw [ids, counter]
    exact assigned.issued
  · rw [ids]
    exact assigned.injective

theorem runAccept (assigned : Assigned machine) (identified : Identified machine) (bound : Bool)
    {clientSocket : Socket} {index : Index} {more : List Index}
    (top : machine.threads thread = .processAccept clientSocket :: rest)
    (available : machine.server.availableIndices = index :: more)
    (positive : 0 < machine.server.sessionIdCounter.toNat)
    (early : machine.server.sessionIdCounter.toNat < 2 ^ 48) :
    Assigned (machine.runFrame env thread bound (.processAccept clientSocket) rest) := by
  obtain ⟨_, last, _⟩ := identified.frames thread (.processAccept clientSocket) (by
    rw [top]
    exact List.mem_cons_self)
  have counter := Frame.processAccept_counter env bound clientSocket available early
  have unique := extractUniqueId_counter index early
  have accepted : (machine.runFrame env thread bound (.processAccept clientSocket)
      rest).server.accepted = machine.server.accepted :=
    (Frame.turn_counters env machine.server (.processAccept clientSocket) bound).1
  have ids : (machine.runFrame env thread bound (.processAccept clientSocket) rest).history.ids =
      Function.update machine.history.ids clientSocket
        (makeSessionId index (machine.server.sessionIdCounter &&& sessionUniqueMask)) := by
    simp only [runFrame, Frame.record, available]
  refine ⟨fun socket later => ?_, fun owner socket member => ?_, fun socket real => ?_,
    fun socket other real same => ?_⟩
  · rw [accepted] at later
    rw [ids, Function.update_of_ne (Nat.ne_of_gt (Nat.lt_of_le_of_lt last later))]
    exact assigned.unused socket later
  · rcases runFrame_threads bound member with new | old
    · simp [Frame.turn, Frame.processAcceptTurn, available] at new
    · cases (identified.shaped.alone top rfl rfl old).2
  · rw [ids] at real ⊢
    simp only [runFrame, counter]
    by_cases here : socket = clientSocket
    · subst here
      rw [Function.update_self, unique]
      exact Nat.lt_succ_self _
    · rw [Function.update_of_ne here] at real ⊢
      exact Nat.lt_succ_of_lt (assigned.issued socket real)
  · rw [ids] at real same
    -- The new id is beyond every earlier one.
    have beyond (socket : Socket) : machine.history.ids socket ≠
        makeSessionId index (machine.server.sessionIdCounter &&& sessionUniqueMask) := by
      intro repeated
      have real := issued_real index positive early
      rw [← repeated] at real
      have issued := assigned.issued socket real
      rw [repeated, unique] at issued
      exact Nat.lt_irrefl _ issued
    by_cases here : socket = clientSocket
    · subst here
      by_contra apart
      rw [Function.update_self, Function.update_of_ne apart] at same
      exact beyond other same
    · rw [Function.update_of_ne here] at real same
      by_cases there : other = clientSocket
      · subst there
        rw [Function.update_self] at same
        exact absurd same.symm (beyond socket)
      · rw [Function.update_of_ne there] at same
        exact assigned.injective socket other real same

theorem moves {action : Turn Thread} (assigned : Assigned machine)
    (identified : Identified machine) (named : Named machine)
    (orderly : Guarded Orderly machine action) (moves : Moves env machine action next) :
    Assigned next := by
  have begun (starter : Option Thread) {frames : List Frame}
      (none : ∀ clientSocket, .processAccept clientSocket ∉ frames) {server : Server}
      (counter : server.sessionIdCounter = machine.server.sessionIdCounter)
      (accepted : machine.server.accepted ≤ server.accepted) :
      Assigned { machine with
        server := server
        threads := Function.update machine.threads starter frames } := by
    refine assigned.keep rfl counter accepted (fun thread clientSocket member => .inl ?_)
    by_cases here : thread = starter
    · subst here
      exact absurd (by simpa using member) (none clientSocket)
    · simpa [here] using member
  cases moves with
  | run thread bound frame rest top =>
    have counters := Frame.turn_counters env machine.server frame bound
    have waiting (other : Option Thread) (clientSocket : Socket)
        (member : .processAccept clientSocket ∈
          (machine.runFrame env thread bound frame rest).threads other) :
        .processAccept clientSocket ∈ machine.threads other ∨
          machine.server.accepted < clientSocket := by
      rcases runFrame_new_or_old bound top member with new | old
      · exact absurd new ((Frame.turn_leads env machine.server frame bound).accepts clientSocket)
      · exact .inl old
    by_cases issues : frame.issues = true
    · cases frame with
      | processAccept clientSocket =>
        cases available : machine.server.availableIndices with
        | nil =>
          refine assigned.keep ?_ ?_ (Nat.le_of_eq counters.1.symm) waiting
          · simp [runFrame, Frame.record, available]
          · simp [runFrame, Frame.turn, Frame.processAcceptTurn, available, Server.closesocket]
        | cons index more =>
          exact assigned.runAccept identified bound top available named.positive
            (orderly (.processAccept clientSocket) (by simp [top]))
      | _ => cases issues
    · have other : frame.issues = false := by simpa using issues
      exact assigned.keep (Frame.record_ids other) (counters.2.1 other)
        (Nat.le_of_eq counters.1.symm) waiting
  | accept idle =>
    refine assigned.keep rfl rfl (Nat.le_succ _) (fun thread clientSocket member => ?_)
    by_cases here : thread = none
    · subst here
      simp only [Function.update_self, List.mem_cons, reduceCtorEq, Frame.processAccept.injEq,
        List.not_mem_nil, or_false, false_or] at member
      exact .inr (member ▸ Nat.lt_succ_self _)
    · exact .inl (by simpa [here] using member)
  | acceptFailed idle => exact begun none (by simp) rfl (Nat.le_refl _)
  | worker thread position completion found idle =>
    exact begun (some thread) (by simp) rfl (Nat.le_refl _)
  | requestSendMsg thread sessionId payload idle =>
    exact begun (some thread) (by simp) rfl (Nat.le_refl _)
  | requestDisconnectSession thread sessionId idle =>
    exact begun (some thread) (by simp) rfl (Nat.le_refl _)
  | receive | transmit | fail =>
    exact assigned.keep rfl rfl (Nat.le_refl _) (fun _ _ => .inl)

end Assigned

omit [DecidableEq Thread] in
theorem start_assigned : Assigned (start env : Machine Thread) := by
  have zero : extractUniqueId 0 = 0 := by decide
  exact ⟨fun _ _ => rfl, fun _ _ _ => rfl, fun _ real => absurd zero real,
    fun _ _ real => absurd zero real⟩

/-- A session is disconnected only once its CONNECTED event is out. A slot is initialised only while
no receive posted on it is in flight. What a receive brought is handled only while the slot still
holds the session, and handed on only before the session's DISCONNECTED event. -/
def Prompt (machine : Machine Thread) : Frame → Prop
  | .disconnect index .exchange _ => (machine.server.sessions index).valid = true →
      ⟨.connected, (machine.server.sessions index).sessionId, []⟩ ∈ machine.server.eventQueue
  | .initializeSession .socket index _ _ =>
      ∀ request ∈ machine.server.outstanding, request.operation ≠ .send → request.index ≠ index
  | .moveWritePtr index poster _ | .parse index poster =>
      (machine.server.sessions index).incarnation = poster
  | .deliver index poster _ => (machine.server.sessions index).incarnation = poster ∧
      ((machine.server.sessions index).valid = true ∨ ∃ thread, ∃ frame ∈ machine.threads thread,
        frame.owes (machine.server.sessions index).sessionId = true)
  | _ => True

instance [Fintype Thread] (machine : Machine Thread) (frame : Frame) :
    Decidable (Prompt machine frame) :=
  match frame with
  | .disconnect index .exchange _ =>
      inferInstanceAs (Decidable ((machine.server.sessions index).valid = true →
        ⟨.connected, (machine.server.sessions index).sessionId, []⟩ ∈ machine.server.eventQueue))
  | .initializeSession .socket index _ _ =>
      inferInstanceAs (Decidable (∀ request ∈ machine.server.outstanding,
        request.operation ≠ .send → request.index ≠ index))
  | .moveWritePtr index poster _ | .parse index poster =>
      inferInstanceAs (Decidable ((machine.server.sessions index).incarnation = poster))
  | .deliver index poster _ => inferInstanceAs (Decidable
      ((machine.server.sessions index).incarnation = poster ∧
        ((machine.server.sessions index).valid = true ∨
          ∃ thread, ∃ frame ∈ machine.threads thread,
            frame.owes (machine.server.sessions index).sessionId = true)))
  | .findSend _ _ | .findDisconnect _ | .send _ _ _ | .dispatch _ | .checkId _ | .postRecv _ _
  | .wsaRecv _ _ | .releaseSession | .release _ | .processAccept _ | .bindIOCP _ _ _
  | .announceConnect _ _ _ | .initializeSession .sessionId _ _ _
  | .initializeSession .valid _ _ _ | .initializeSession .sending _ _ _
  | .initializeSession .recvQ _ _ _ | .initializeSession .sendQ _ _ _
  | .initializeSession .overlapped _ _ _ | .disconnect _ .close _ | .disconnect _ .clearSending _
  | .disconnect _ .pushPending _ | .disconnect _ .readSessionId _
  | .disconnect _ (.pushEvent _) _ => inferInstanceAs (Decidable True)

def Sequenced (machine : Machine Thread) (frame : Frame) : Prop :=
  Orderly machine frame ∧ Steady machine frame ∧ Prompt machine frame

instance [Fintype Thread] (machine : Machine Thread) (frame : Frame) :
    Decidable (Sequenced machine frame) :=
  inferInstanceAs (Decidable (_ ∧ _ ∧ _))

omit [DecidableEq Thread] in
theorem Guarded.weaken {permits weaker : Machine Thread → Frame → Prop} {machine : Machine Thread}
    {action : Turn Thread} (implied : ∀ machine frame, permits machine frame → weaker machine frame)
    (guarded : Guarded permits machine action) : Guarded weaker machine action := by
  cases action with
  | run thread bound => exact fun frame top => implied machine frame (guarded frame top)
  | _ => trivial

structure Settled (machine : Machine Thread) : Prop where
  accounts : Accounts machine
  identified : Identified machine
  tokens : Tokens machine
  nested : ∀ thread, Nested (machine.threads thread)
  assigned : Assigned machine

theorem reachable_settled {machine : Machine Thread} (mode : env.architectureType = .centralized)
    (reached : Reachable (step env) (Guarded Sequenced) (start env) machine) : Settled machine := by
  have orderly := reached.weaken fun _ _ => Guarded.weaken fun _ _ sequenced => sequenced.1
  have steady := reached.weaken fun _ _ => Guarded.weaken fun _ _ sequenced => sequenced.2.1
  refine ⟨reachable_accounts mode orderly, reachable_identified reached, reachable_tokens steady,
    ?_, ?_⟩
  · clear orderly steady
    induction reached with
    | start => exact fun _ => trivial
    | step reached _ taken ih =>
      exact nested_moves ih (reachable_identified reached).shaped (step_moves taken)
  · clear reached steady
    induction orderly with
    | start => exact start_assigned
    | step orderly permitted taken ih =>
      exact ih.moves (reachable_identified orderly) (reachable_accounts mode orderly).named
        permitted (step_moves taken)

namespace Settled

variable {machine : Machine Thread} (settled : Settled machine) {thread : Option Thread}
  {rest : List Frame}

include settled

omit [DecidableEq Thread] in
theorem deliver_id {index : Index} {poster : Nat} {bytes : List UInt8}
    (top : machine.threads thread = .deliver index poster bytes :: rest)
    (current : (machine.server.sessions index).incarnation = poster) :
    (machine.server.sessions index).sessionId = machine.history.ids poster := by
  subst current
  obtain named | ⟨sessionId, storing⟩ := settled.identified.named index
  · exact named.symm
  -- The accept thread would hold the token of the worker's receive.
  · have here : carries (machine.server.sessions index).incarnation (machine.threads thread) = true :=
      (settled.nested thread).carries (by rw [top]; exact List.mem_cons_self)
        (by simp [Frame.handles])
    have there : carries (machine.server.sessions index).incarnation (machine.threads none) = true :=
      List.any_eq_true.mpr ⟨_, storing, by simp [Frame.receives]⟩
    obtain ⟨placement, placed⟩ := settled.tokens.placed (machine.server.sessions index).incarnation
    have held := (placed.holder thread here).symm.trans (placed.holder none there)
    cases held
    rw [top] at storing
    rcases List.mem_cons.mp storing with same | below
    · cases same
    · cases (settled.identified.shaped.standing top below).2

omit [DecidableEq Thread] in
theorem undisconnected {index : Index}
    (real : extractUniqueId (machine.server.sessions index).sessionId ≠ 0)
    (open_ : (machine.server.sessions index).valid = true ∨ ∃ thread, ∃ frame ∈ machine.threads thread,
      frame.owes (machine.server.sessions index).sessionId = true) :
    ⟨.disconnected, (machine.server.sessions index).sessionId, []⟩ ∉ machine.server.eventQueue := by
  obtain ⟨placement, placed, known⟩ := settled.accounts.debts _ real
  intro member
  have counted := List.count_pos_iff.mpr member
  rcases open_ with valid | ⟨thread, frame, above, owes⟩
  · have pending := placed.busy counted
    subst pending
    exact settled.accounts.named.live index valid real (known.mpr nofun)
  · have held := placed.holder thread (List.any_eq_true.mpr ⟨frame, above, owes⟩)
    subst held
    exact absurd placed.1 (Nat.ne_of_gt counted)

end Settled

end Machine

namespace IORequest

-- The session was announced before its first receive was posted.
def Heard (server : Server) (history : History) (request : IORequest) : Prop :=
  request.operation ≠ .send →
    ⟨.connected, history.ids request.incarnation, []⟩ ∈ server.eventQueue

end IORequest

def Frame.Heard (server : Server) (history : History) : Frame → Prop
  | .disconnect _ .exchange _ => True
  | .disconnect _ _ cleared => ⟨.connected, cleared, []⟩ ∈ server.eventQueue
  | .dispatch completion | .checkId completion => completion.request.Heard server history
  | .moveWritePtr _ poster _ | .parse _ poster | .deliver _ poster _ | .postRecv _ poster
  | .wsaRecv _ poster => ⟨.connected, history.ids poster, []⟩ ∈ server.eventQueue
  | .initializeSession _ _ _ sessionId | .bindIOCP _ _ sessionId | .announceConnect _ _ sessionId =>
      extractUniqueId sessionId ≠ 0 ∧ ∀ event ∈ server.eventQueue, event.sessionId ≠ sessionId
  | _ => True

namespace Frame

theorem Heard.keep {server next : Server} {history later : History} {frame : Frame}
    (heard : frame.Heard server history)
    (grown : ∀ event ∈ server.eventQueue, event ∈ next.eventQueue)
    (connected : ∀ socket, ⟨.connected, history.ids socket, []⟩ ∈ server.eventQueue →
      ⟨.connected, later.ids socket, []⟩ ∈ next.eventQueue)
    (unheard : frame.accepting = true → ∀ sessionId,
      (∀ event ∈ server.eventQueue, event.sessionId ≠ sessionId) →
      ∀ event ∈ next.eventQueue, event.sessionId ≠ sessionId) : frame.Heard next later := by
  cases frame with
  | disconnect index pc cleared =>
    cases pc with
    | exchange => trivial
    | _ => exact grown _ heard
  | dispatch completion | checkId completion => exact fun receive => connected _ (heard receive)
  | moveWritePtr index poster size | parse index poster | deliver index poster bytes
  | postRecv index poster | wsaRecv index poster => exact connected poster heard
  | initializeSession pc index clientSocket sessionId =>
    exact ⟨heard.1, unheard rfl sessionId heard.2⟩
  | bindIOCP index clientSocket sessionId | announceConnect index clientSocket sessionId =>
    exact ⟨heard.1, unheard rfl sessionId heard.2⟩
  | _ => trivial

theorem Leads.heard {env : Environment} {server next : Server} {later : History} {frame : Frame}
    {frames : List Frame} (leads : Leads env server frame frames)
    (linked : server.Every Server.Linked)
    (other : frame.issues = false)
    (connects : ∀ index clientSocket sessionId, frame ≠ .announceConnect index clientSocket sessionId)
    (clears : ∀ index cleared, frame = .disconnect index .exchange cleared →
      (server.sessions index).valid = true →
      ⟨.connected, (server.sessions index).sessionId, []⟩ ∈ next.eventQueue)
    (heard : frame.Heard next later) : ∀ below ∈ frames, below.Heard next later := by
  cases leads with
  | clear index cleared valid => simpa [Heard] using clears index cleared rfl valid
  | processRecv completion receive =>
    have kind : completion.request.operation ≠ .send := by
      intro send
      have operation := (linked completion.request.index).operation
      simp [send, CSession.overlapped, operation] at receive
    simpa [Heard] using heard kind
  | send index target pc proper =>
    generalize (sendTurn env server index pc).2 = later
    simp [Heard]
  | processAccept => cases other
  | connected index clientSocket sessionId => exact absurd rfl (connects _ _ _)
  | ends | abort | foundSend | processSend | echo | release => simp [Heard, startDisconnect]
  | _ => simpa [Heard] using heard

theorem pushes_accepting {server : Server} {frame : Frame} (accepting : frame.accepting = true)
    (connects : ∀ index clientSocket sessionId,
      frame ≠ .announceConnect index clientSocket sessionId) : frame.pushes server = [] := by
  cases frame with
  | announceConnect index clientSocket sessionId => exact absurd rfl (connects _ _ _)
  | disconnect | deliver => cases accepting
  | _ => rfl

theorem pushes_single (server : Server) (frame : Frame) : (frame.pushes server).length ≤ 1 := by
  cases frame with
  | disconnect index pc cleared => cases pc <;> simp [pushes]
  | _ => simp [pushes]

end Frame

namespace Machine

variable {env : Environment} {Thread : Type} [DecidableEq Thread]

/-- The event queue so far, and what has yet to come. -/
structure Announced (machine : Machine Thread) : Prop where
  timely : Ordered Timely machine.server.eventQueue
  plain : ∀ event ∈ machine.server.eventQueue, event.type ≠ .received → event.data = []
  known : ∀ event ∈ machine.server.eventQueue, extractUniqueId event.sessionId ≠ 0 ∧
    ∃ socket, machine.history.ids socket = event.sessionId
  frames : ∀ thread, ∀ frame ∈ machine.threads thread, frame.Heard machine.server machine.history
  outstanding : ∀ request ∈ machine.server.outstanding,
    request.Heard machine.server machine.history
  completions : ∀ completion ∈ machine.server.completions,
    completion.request.Heard machine.server machine.history

namespace Announced

variable {machine next : Machine Thread} {thread : Option Thread} {rest : List Frame}

omit [DecidableEq Thread] in
theorem issued (announced : Announced machine) (assigned : Assigned machine) {event : NetworkEvent}
    (member : event ∈ machine.server.eventQueue) :
    (extractUniqueId event.sessionId).toNat < machine.server.sessionIdCounter.toNat := by
  obtain ⟨real, socket, named⟩ := announced.known event member
  rw [← named] at real ⊢
  exact assigned.issued socket real

structure Pushable (machine : Machine Thread) (event : NetworkEvent) : Prop where
  timely : Timely machine.server.eventQueue event
  plain : event.type ≠ .received → event.data = []
  real : extractUniqueId event.sessionId ≠ 0
  owned : ∃ socket, machine.history.ids socket = event.sessionId

omit [DecidableEq Thread] in
theorem pushable (announced : Announced machine) (settled : Settled machine) {frame : Frame}
    (top : machine.threads thread = frame :: rest) (permitted : Prompt machine frame) :
    ∀ event ∈ frame.pushes machine.server, Pushable machine event := by
  have here : frame ∈ machine.threads thread := by
    rw [top]
    exact List.mem_cons_self
  have heard := announced.frames thread frame here
  cases frame with
  | disconnect index pc cleared =>
    cases pc with
    | pushEvent sessionId =>
      have same : sessionId = cleared := settled.accounts.named.fits thread _ here
      subst same
      obtain ⟨real, owned⟩ := announced.known _ heard
      intro event pushed
      cases List.mem_singleton.mp pushed
      exact ⟨heard, fun _ => rfl, real, owned⟩
    | _ => simp [Frame.pushes]
  | announceConnect index clientSocket sessionId =>
    obtain ⟨real, unheard⟩ := heard
    obtain ⟨_, _, named, _⟩ := settled.identified.frames thread _ here
    intro event pushed
    cases List.mem_singleton.mp pushed
    exact ⟨unheard, fun _ => rfl, real, clientSocket, named⟩
  | deliver index poster bytes =>
    obtain ⟨current, open_⟩ := permitted
    have named := settled.deliver_id top current
    have connected : ⟨.connected, (machine.server.sessions index).sessionId, []⟩ ∈
        machine.server.eventQueue := by
      rw [named]
      exact heard
    obtain ⟨real, owned⟩ := announced.known _ connected
    have undisconnected := settled.undisconnected real open_
    intro event pushed
    cases List.mem_singleton.mp pushed
    refine ⟨⟨connected, fun before member ended same => undisconnected ?_⟩, by simp, real, owned⟩
    have data := announced.plain before member (by simp [ended])
    obtain ⟨type, sessionId, bytes⟩ := before
    cases ended
    cases same
    cases data
    exact member
  | _ => simp [Frame.pushes]

omit [DecidableEq Thread] in
theorem keep (announced : Announced machine) {more : List NetworkEvent}
    (queue : next.server.eventQueue = machine.server.eventQueue ++ more)
    (single : more.length ≤ 1) (pushed : ∀ event ∈ more, Pushable machine event)
    (ids : ∀ socket, extractUniqueId (machine.history.ids socket) ≠ 0 →
      next.history.ids socket = machine.history.ids socket)
    (frames : ∀ thread, ∀ frame ∈ next.threads thread,
      (frame ∈ machine.threads thread ∧
        (frame.accepting = true → ∀ event ∈ more, event.type ≠ .connected)) ∨
      frame.Heard next.server next.history)
    (outstanding : ∀ request ∈ next.server.outstanding, request ∈ machine.server.outstanding ∨
      request.Heard next.server next.history)
    (completions : ∀ completion ∈ next.server.completions,
      completion ∈ machine.server.completions ∨
        completion.request ∈ machine.server.outstanding) : Announced next := by
  have grown (event : NetworkEvent) (member : event ∈ machine.server.eventQueue) :
      event ∈ next.server.eventQueue := by
    rw [queue]
    exact List.mem_append_left _ member
  have connected (socket : Socket)
      (heard : ⟨.connected, machine.history.ids socket, []⟩ ∈ machine.server.eventQueue) :
      ⟨.connected, next.history.ids socket, []⟩ ∈ next.server.eventQueue := by
    rw [ids socket (announced.known _ heard).1]
    exact grown _ heard
  have named (sessionId : SessionId) (real : extractUniqueId sessionId ≠ 0)
      (owned : ∃ socket, machine.history.ids socket = sessionId) :
      extractUniqueId sessionId ≠ 0 ∧ ∃ socket, next.history.ids socket = sessionId := by
    obtain ⟨socket, rfl⟩ := owned
    exact ⟨real, socket, ids socket real⟩
  refine ⟨?_, fun event member => ?_, fun event member => ?_, fun thread frame member => ?_,
    fun request member => ?_, fun completion member => ?_⟩
  · rw [queue]
    match more, single with
    | [], _ => simpa using announced.timely
    | [event], _ => exact announced.timely.append (pushed event (by simp)).timely
  · rw [queue] at member
    rcases List.mem_append.mp member with old | new
    · exact announced.plain event old
    · exact (pushed event new).plain
  · rw [queue] at member
    rcases List.mem_append.mp member with old | new
    · exact named event.sessionId (announced.known event old).1 (announced.known event old).2
    · exact named event.sessionId (pushed event new).real (pushed event new).owned
  · rcases frames thread frame member with ⟨old, quiet⟩ | new
    · refine (announced.frames thread frame old).keep grown connected ?_
      intro accepting sessionId unheard event member
      rw [queue] at member
      rcases List.mem_append.mp member with before | last
      · exact unheard event before
      · have other := quiet accepting event last
        exact unheard ⟨.connected, event.sessionId, []⟩ ((pushed event last).timely.connected other)
    · exact new
  · rcases outstanding request member with old | new
    · exact fun receive => connected _ (announced.outstanding request old receive)
    · exact new
  · rcases completions completion member with old | posted
    · exact fun receive => connected _ (announced.completions completion old receive)
    · exact fun receive => connected _ (announced.outstanding _ posted receive)

theorem run (announced : Announced machine) (settled : Settled machine)
    (mode : env.architectureType = .centralized) (bound : Bool) {frame : Frame}
    (top : machine.threads thread = frame :: rest) (permitted : Sequenced machine frame)
    (ids : ∀ socket, extractUniqueId (machine.history.ids socket) ≠ 0 →
      (frame.record machine.server machine.history).ids socket = machine.history.ids socket)
    (new : ∀ below ∈ (frame.turn env machine.server bound).2,
      below.Heard (frame.turn env machine.server bound).1
        (frame.record machine.server machine.history)) :
    Announced (machine.runFrame env thread bound frame rest) := by
  have queue := (Frame.turn_counters env machine.server frame bound).2.2 mode
  have grown (event : NetworkEvent) (member : event ∈ machine.server.eventQueue) :
      event ∈ (frame.turn env machine.server bound).1.eventQueue := by
    rw [queue]
    exact List.mem_append_left _ member
  have heard := announced.frames thread frame (by rw [top]; exact List.mem_cons_self)
  refine announced.keep queue (frame.pushes_single machine.server)
    (announced.pushable settled top permitted.2.2) ids (fun other below member => ?_)
    (fun request member => ?_) (fun completion member => ?_)
  · rcases runFrame_threads bound member with created | old
    · exact .inr (new below created)
    · refine .inl ⟨?_, fun accepting event pushed connected => ?_⟩
      · split at old
        · next same =>
          rw [same, top]
          exact List.mem_cons_of_mem _ old
        · exact old
      · cases frame with
        | announceConnect index clientSocket sessionId =>
          have quiet := (settled.identified.shaped.alone top rfl rfl old).2
          rw [accepting] at quiet
          cases quiet
        | disconnect index pc cleared =>
          cases pc <;> simp [Frame.pushes] at pushed
          subst pushed
          cases connected
        | deliver index poster bytes =>
          cases List.mem_singleton.mp pushed
          cases connected
        | _ => cases pushed
  · rcases Frame.turn_outstanding member with old | ⟨opened, current, posted⟩
    · exact .inl old
    · refine .inr fun receive => ?_
      rcases posted with ⟨poster, rfl, _⟩ | ⟨_, _, _, _, send, _⟩
      · have steady := permitted.2.1
        rcases steady with closed | same
        · rw [opened] at closed
          cases closed
        · have connected := heard
          rw [← same, ← current] at connected
          exact grown _ connected
      · exact absurd send receive
  · exact (Frame.turn_completions member).imp_right fun posted => posted.1

theorem runAccept (announced : Announced machine) (settled : Settled machine)
    (mode : env.architectureType = .centralized) (bound : Bool) {clientSocket : Socket}
    (top : machine.threads thread = .processAccept clientSocket :: rest)
    (permitted : Sequenced machine (.processAccept clientSocket)) :
    Announced (machine.runFrame env thread bound (.processAccept clientSocket) rest) := by
  have waiting := settled.assigned.waiting thread clientSocket (by
    rw [top]
    exact List.mem_cons_self)
  cases available : machine.server.availableIndices with
  | nil =>
    refine announced.run settled mode bound top permitted (fun socket real => ?_) ?_
    · simp [Frame.record, available]
    · simp [Frame.turn, Frame.processAcceptTurn, available]
  | cons index more =>
    have early : machine.server.sessionIdCounter.toNat < 2 ^ 48 := permitted.1
    have unique := extractUniqueId_counter index early
    have real := issued_real index settled.accounts.named.positive early
    refine announced.run settled mode bound top permitted (fun socket known => ?_) ?_
    · have other : socket ≠ clientSocket := by
        rintro rfl
        rw [waiting] at known
        exact known rfl
      simp [Frame.record, available, other]
    · simp only [Frame.turn, Frame.processAcceptTurn, available, List.mem_singleton, forall_eq]
      refine ⟨real, fun event member same => ?_⟩
      have issued := announced.issued settled.assigned member
      rw [same, unique] at issued
      exact Nat.lt_irrefl _ issued

theorem runAnnounce (announced : Announced machine) (settled : Settled machine)
    (mode : env.architectureType = .centralized) (bound : Bool) {index : Index}
    {clientSocket : Socket} {sessionId : SessionId}
    (top : machine.threads thread = .announceConnect index clientSocket sessionId :: rest)
    (permitted : Sequenced machine (.announceConnect index clientSocket sessionId)) :
    Announced (machine.runFrame env thread bound (.announceConnect index clientSocket sessionId)
      rest) := by
  obtain ⟨_, _, named, _⟩ := settled.identified.frames thread _ (by
    rw [top]
    exact List.mem_cons_self)
  refine announced.run settled mode bound top permitted (fun _ _ => rfl) ?_
  simp only [Frame.turn, List.mem_singleton, forall_eq, Frame.Heard, Frame.record, named,
    Server.announceConnect, mode, Server.pushNetworkEvent]
  exact List.mem_append_right _ (List.mem_singleton.mpr rfl)

theorem runOther (announced : Announced machine) (settled : Settled machine)
    (mode : env.architectureType = .centralized) (bound : Bool) {frame : Frame}
    (top : machine.threads thread = frame :: rest) (permitted : Sequenced machine frame)
    (other : frame.issues = false)
    (connects : ∀ index clientSocket sessionId,
      frame ≠ .announceConnect index clientSocket sessionId) :
    Announced (machine.runFrame env thread bound frame rest) := by
  have queue := (Frame.turn_counters env machine.server frame bound).2.2 mode
  have ids : (frame.record machine.server machine.history).ids = machine.history.ids :=
    Frame.record_ids other
  have grown (event : NetworkEvent) (member : event ∈ machine.server.eventQueue) :
      event ∈ (frame.turn env machine.server bound).1.eventQueue := by
    rw [queue]
    exact List.mem_append_left _ member
  have heard : frame.Heard (frame.turn env machine.server bound).1
      (frame.record machine.server machine.history) := by
    apply (announced.frames thread frame (by rw [top]; exact List.mem_cons_self)).keep grown
    · intro socket heard
      rw [ids]
      exact grown _ heard
    · intro accepting sessionId unheard
      rw [queue, Frame.pushes_accepting accepting connects, List.append_nil]
      exact unheard
  refine announced.run settled mode bound top permitted (fun _ _ => by rw [ids]) ?_
  apply (Frame.turn_leads env machine.server frame bound).heard settled.identified.tied.linked other
    connects _ heard
  intro index cleared same valid
  subst same
  exact grown _ (permitted.2.2 valid)

theorem moves {action : Turn Thread} (announced : Announced machine) (settled : Settled machine)
    (mode : env.architectureType = .centralized) (sequenced : Guarded Sequenced machine action)
    (moves : Moves env machine action next) : Announced next := by
  have quiet {server : Server} {threads : Option Thread → List Frame} {history : History}
      (queue : server.eventQueue = machine.server.eventQueue)
      (ids : history.ids = machine.history.ids)
      (frames : ∀ thread, ∀ frame ∈ threads thread, frame ∈ machine.threads thread ∨
        frame.Heard server history)
      (outstanding : ∀ request ∈ server.outstanding, request ∈ machine.server.outstanding)
      (completions : ∀ completion ∈ server.completions,
        completion ∈ machine.server.completions ∨
          completion.request ∈ machine.server.outstanding) :
      Announced { server, threads, history } := by
    have same : server.eventQueue = machine.server.eventQueue ++ [] := by
      rw [queue, List.append_nil]
    refine announced.keep same (Nat.zero_le _) (by simp) (fun _ _ => by rw [ids])
      (fun thread frame member => ?_) (fun request member => .inl (outstanding request member))
      completions
    rcases frames thread frame member with old | new
    · exact .inl ⟨old, by simp⟩
    · exact .inr new
  have begun (starter : Option Thread) {frames : List Frame} {server : Server}
      (queue : server.eventQueue = machine.server.eventQueue)
      (outstanding : ∀ request ∈ server.outstanding, request ∈ machine.server.outstanding)
      (completions : ∀ completion ∈ server.completions, completion ∈ machine.server.completions)
      (new : ∀ frame ∈ frames, frame.Heard server machine.history) :
      Announced { machine with
        server := server
        threads := Function.update machine.threads starter frames } := by
    refine quiet queue rfl (fun thread frame member => ?_) outstanding
      (fun completion member => .inl (completions completion member))
    by_cases here : thread = starter
    · subst here
      exact .inr (new frame (by simpa using member))
    · exact .inl (by simpa [here] using member)
  have completed {server : Server} {position : Nat} {request : IORequest} {result : Bool}
      {bytes : Nat} {received : Socket → List UInt8}
      (found : machine.server.outstanding[position]? = some request)
      (queue : server.eventQueue = machine.server.eventQueue)
      (outstanding : server.outstanding = machine.server.outstanding)
      (completions : server.completions = machine.server.completions) :
      Announced { machine with
        server := server.complete position ⟨request, result, bytes⟩
        history := { machine.history with received := received } } := by
    refine quiet queue rfl (fun _ _ => .inl) (fun other member => ?_)
      (fun completion member => ?_)
    · rw [← outstanding]
      exact List.mem_of_mem_eraseIdx member
    · rcases List.mem_append.mp member with old | new
      · rw [← completions]
        exact .inl old
      · rw [List.mem_singleton.mp new]
        exact .inr (List.mem_of_getElem? found)
  cases moves with
  | run thread bound frame rest top =>
    have permitted : Sequenced machine frame := sequenced frame (by simp [top])
    cases frame with
    | processAccept clientSocket => exact announced.runAccept settled mode bound top permitted
    | announceConnect index clientSocket sessionId =>
      exact announced.runAnnounce settled mode bound top permitted
    | _ => exact announced.runOther settled mode bound top permitted rfl (by simp)
  | accept idle => exact begun none rfl (fun _ => id) (fun _ => id) (by simp [Frame.Heard])
  | acceptFailed idle =>
    exact begun none rfl (fun _ => id) (fun _ => id) (by simp [Frame.Heard])
  | worker thread position completion found idle =>
    refine begun (some thread) rfl (fun _ => id)
      (fun other member => List.mem_of_mem_eraseIdx member) ?_
    intro frame member
    rw [List.mem_singleton.mp member]
    exact announced.completions completion (List.mem_of_getElem? found)
  | requestSendMsg thread sessionId payload idle =>
    exact begun (some thread) rfl (fun _ => id) (fun _ => id) (by simp [Frame.Heard])
  | requestDisconnectSession thread sessionId idle =>
    exact begun (some thread) rfl (fun _ => id) (fun _ => id) (by simp [Frame.Heard])
  | receive position bytes request found receive fits => exact completed found rfl rfl rfl
  | transmit position count request found send some fits => exact completed found rfl rfl rfl
  | fail position request found => exact completed found rfl rfl rfl

end Announced

omit [DecidableEq Thread] in
theorem start_announced : Announced (start env : Machine Thread) where
  timely := ordered_nil
  plain _ member := absurd member List.not_mem_nil
  known _ member := absurd member List.not_mem_nil
  frames _ _ member := absurd member List.not_mem_nil
  outstanding _ member := absurd member List.not_mem_nil
  completions _ member := absurd member List.not_mem_nil

theorem reachable_announced {machine : Machine Thread} (mode : env.architectureType = .centralized)
    (reached : Reachable (step env) (Guarded Sequenced) (start env) machine) :
    Announced machine := by
  induction reached with
  | start => exact start_announced
  | step reached sequenced taken ih =>
    exact ih.moves (reachable_settled mode reached) mode sequenced (step_moves taken)

end Machine

end MiniGames
