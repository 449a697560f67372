import MiniGames.Network.Incarnations
import MiniGames.Network.ReceiveTokens

set_option autoImplicit false

namespace MiniGames

open Circular Runs Token

namespace Server

theorem Incarnations.receives_eq_zero {limit incarnation : Nat} {server : Server}
    (bounded : server.Incarnations (· ≤ limit)) (later : limit < incarnation) :
    server.receives incarnation = 0 := by
  have none : ∀ request : IORequest, request.incarnation ≤ limit →
      request.receives incarnation = false := by
    intro request early
    have other : request.incarnation ≠ incarnation := by omega
    simp [IORequest.receives, other]
  rw [receives, Nat.add_eq_zero_iff, List.countP_eq_zero, List.countP_eq_zero]
  refine ⟨fun request member => ?_, fun completion member => ?_⟩
  · simp [none request (bounded.outstanding request member)]
  · simp [Completion.receives, none _ (bounded.completions completion member)]

end Server

-- A frame that holds a token has nothing below it.
theorem Frame.receives_bottom {incarnation : Nat} {frame : Frame}
    (received : frame.receives incarnation = true) : frame.bottom = true := by
  cases frame <;> first | rfl | cases received

namespace Machine

variable {env : Environment} {Thread : Type} [DecidableEq Thread]

structure Tokens (machine : Machine Thread) : Prop where
  placed : ∀ incarnation, ∃ placement, Placed (carries incarnation) machine.threads
    (machine.server.receives incarnation) placement
  fresh : ∀ incarnation thread, machine.server.accepted < incarnation →
    carries incarnation (machine.threads thread) = false

/-- A WSARecv is called for the session that the slot holds, or fails for want of a socket. -/
def Steady (machine : Machine Thread) : Frame → Prop
  | .wsaRecv index poster => (machine.server.sessions index).socket = none ∨
      (machine.server.sessions index).incarnation = poster
  | _ => True

instance (machine : Machine Thread) (frame : Frame) : Decidable (Steady machine frame) :=
  match frame with
  | .wsaRecv index poster => inferInstanceAs (Decidable
      ((machine.server.sessions index).socket = none ∨
        (machine.server.sessions index).incarnation = poster))
  | .findSend _ _ | .findDisconnect _ | .send _ _ _ | .disconnect _ _ _ | .dispatch _ | .checkId _
  | .moveWritePtr _ _ _ | .parse _ _ | .deliver _ _ _ | .postRecv _ _ | .releaseSession
  | .release _ | .processAccept _ | .initializeSession _ _ _ _ | .bindIOCP _ _ _
  | .announceConnect _ _ _ => inferInstanceAs (Decidable True)

theorem carries_append (incarnation : Nat) (frames more : List Frame) :
    carries incarnation (frames ++ more) =
      (carries incarnation frames || carries incarnation more) := by
  simp [carries]

namespace Tokens

variable {machine : Machine Thread} (tokens : Tokens machine)

include tokens

theorem run (identified : Identified machine) (thread : Option Thread) (bound : Bool)
    {frame : Frame} {rest : List Frame} (top : machine.threads thread = frame :: rest)
    (steady : Steady machine frame) : Tokens (machine.runFrame env thread bound frame rest) := by
  have passes (incarnation : Nat) : Frame.Passes incarnation machine.server frame
      (frame.turn env machine.server bound) := by
    refine Frame.turn_passes incarnation identified.tied.linked bound frame ?_
    rintro index poster rfl
    exact steady
  have handed (incarnation : Nat) :
      carries incarnation (frame.turn env machine.server bound).2 = true →
        frame.receives incarnation = true := by
    intro carried
    rcases passes incarnation with ⟨_, kept⟩ | ⟨_, _, none⟩
    · exact kept carried
    · rw [carried] at none
      cases none
  have old (incarnation : Nat) : carries incarnation (frame :: rest) =
      (frame.receives incarnation || carries incarnation rest) := by
    simp [carries]
  have accepted : (machine.runFrame env thread bound frame rest).server.accepted =
      machine.server.accepted := (Frame.turn_counters env machine.server frame bound).1
  refine ⟨fun incarnation => ?_, fun incarnation other later => ?_⟩
  · obtain ⟨placement, placed⟩ := tokens.placed incarnation
    rcases passes incarnation with ⟨same, kept⟩ | ⟨posted, received, none⟩
    · have shrunk := placed.shrink thread ((frame.turn env machine.server bound).2 ++ rest) (by
        intro carried
        rw [carries_append, Bool.or_eq_true] at carried
        rw [top, old]
        rcases carried with new | below
        · simp [kept new]
        · simp [below])
      simpa only [runFrame, same] using shrunk
    · have held := placed.holder thread (by rw [top, old, received]; rfl)
      subst held
      have emptied : carries incarnation ((frame.turn env machine.server bound).2 ++ rest) =
          false := by
        rw [carries_append, none, identified.shaped.last top (Frame.receives_bottom received)]
        rfl
      exact ⟨.pending, by simpa only [runFrame, posted] using placed.launch emptied⟩
  · rw [accepted] at later
    by_cases here : other = thread
    · subst here
      have before := tokens.fresh incarnation other later
      rw [top, old, Bool.or_eq_false_iff] at before
      have none : carries incarnation (frame.turn env machine.server bound).2 = false := by
        by_contra carried
        rw [handed incarnation (by simpa using carried)] at before
        cases before.1
      simp only [runFrame, Function.update_self]
      rw [carries_append, none, before.2]
      rfl
    · simpa only [runFrame, Function.update_of_ne here] using tokens.fresh incarnation other later

theorem begin (thread : Option Thread) {frames : List Frame} {server : Server}
    (later : machine.server.accepted ≤ server.accepted)
    (placed : ∀ incarnation, ∃ placement, Placed (carries incarnation)
      (Function.update machine.threads thread frames) (server.receives incarnation) placement)
    (fresh : ∀ incarnation, server.accepted < incarnation → carries incarnation frames = false) :
    Tokens { machine with
      server := server
      threads := Function.update machine.threads thread frames } := by
  refine ⟨placed, fun incarnation other after => ?_⟩
  by_cases here : other = thread
  · subst here
    simpa using fresh incarnation after
  · simpa [here] using tokens.fresh incarnation other (Nat.lt_of_le_of_lt later after)

theorem begin_tokenless (thread : Option Thread) (idle : machine.threads thread = [])
    (frame : Frame) (none : ∀ incarnation, frame.receives incarnation = false) :
    Tokens { machine with threads := Function.update machine.threads thread [frame] } := by
  have empty (incarnation : Nat) : carries incarnation [frame] = false := by
    simp [carries, none]
  refine tokens.begin thread (Nat.le_refl _) (fun incarnation => ?_)
    (fun incarnation _ => empty incarnation)
  obtain ⟨placement, placed⟩ := tokens.placed incarnation
  exact ⟨placement, placed.stay (by rw [empty, idle]; rfl)⟩

omit [DecidableEq Thread] in
theorem unclaimed (identified : Identified machine) {incarnation : Nat}
    (later : machine.server.accepted < incarnation) :
    Placed (carries incarnation) machine.threads (machine.server.receives incarnation) .free :=
  ⟨identified.bounded.receives_eq_zero later, fun thread => tokens.fresh incarnation thread later⟩

theorem accept (identified : Identified machine) (idle : machine.threads none = []) :
    Tokens { machine with
      server := { machine.server with accepted := machine.server.accepted + 1 }
      threads := Function.update machine.threads none
        [.releaseSession, .processAccept (machine.server.accepted + 1)] } := by
  refine tokens.begin none (Nat.le_succ _) (fun incarnation => ?_) (fun incarnation later => ?_)
  · by_cases new : machine.server.accepted + 1 = incarnation
    · have free := tokens.unclaimed identified (Nat.lt_of_succ_le (Nat.le_of_eq new))
      exact ⟨.held none, free.acquire (by simp [carries, Frame.receives, new])⟩
    · obtain ⟨placement, placed⟩ := tokens.placed incarnation
      exact ⟨placement, placed.stay (by simp [carries, Frame.receives, new, idle])⟩
  · have other : machine.server.accepted + 1 ≠ incarnation := Nat.ne_of_lt later
    simp [carries, Frame.receives, other]

theorem worker (identified : Identified machine) (thread : Thread) {position : Nat}
    {completion : Completion}
    (found : machine.server.completions[position]? = some completion)
    (idle : machine.threads (some thread) = []) :
    Tokens { machine with
      server := machine.server.dequeueCompletion position
      threads := Function.update machine.threads (some thread) [.dispatch completion] } := by
  refine tokens.begin (some thread) (Nat.le_refl _) (fun incarnation => ?_)
    (fun incarnation later => ?_)
  · have dispatched : carries incarnation [.dispatch completion] =
        completion.receives incarnation := by
      simp [carries, Frame.receives]
    have count := Server.receives_dequeueCompletion incarnation found
    obtain ⟨placement, placed⟩ := tokens.placed incarnation
    rw [count] at placed
    cases received : completion.receives incarnation with
    | true =>
      rw [received] at placed dispatched
      exact ⟨_, placed.land dispatched⟩
    | false =>
      rw [received] at placed dispatched
      exact ⟨placement, placed.stay (by rw [dispatched, idle]; rfl)⟩
  · have early := identified.bounded.completions completion (List.mem_of_getElem? found)
    have other : completion.request.incarnation ≠ incarnation :=
      Nat.ne_of_lt (Nat.lt_of_le_of_lt early later)
    simp [carries, Frame.receives, Completion.receives, IORequest.receives, other]

omit [DecidableEq Thread] in
theorem completed {next : Machine Thread} (threads : next.threads = machine.threads)
    (accepted : next.server.accepted = machine.server.accepted)
    (same : ∀ incarnation, next.server.receives incarnation =
      machine.server.receives incarnation) : Tokens next := by
  refine ⟨fun incarnation => ?_, fun incarnation thread later => ?_⟩
  · obtain ⟨placement, placed⟩ := tokens.placed incarnation
    exact ⟨placement, by rw [same, threads]; exact placed⟩
  · rw [threads]
    exact tokens.fresh incarnation thread (accepted ▸ later)

theorem moves (identified : Identified machine) {action : Turn Thread} {next : Machine Thread}
    (steady : Guarded Steady machine action) (moves : Moves env machine action next) :
    Tokens next := by
  cases moves with
  | run thread bound frame rest top =>
    exact tokens.run identified thread bound top (steady frame (by simp [top]))
  | accept idle => exact tokens.accept identified idle
  | acceptFailed idle => exact tokens.begin_tokenless none idle _ fun _ => rfl
  | receive position bytes request found receive fits =>
    exact tokens.completed rfl rfl
      fun incarnation => Server.receives_complete incarnation true bytes.length found
  | transmit position count request found send some fits =>
    exact tokens.completed rfl rfl
      fun incarnation => Server.receives_complete incarnation true count found
  | fail position request found =>
    exact tokens.completed rfl rfl
      fun incarnation => Server.receives_complete incarnation false 0 found
  | worker thread position completion found idle =>
    exact tokens.worker identified thread found idle
  | requestSendMsg thread sessionId payload idle =>
    exact tokens.begin_tokenless (some thread) idle _ fun _ => rfl
  | requestDisconnectSession thread sessionId idle =>
    exact tokens.begin_tokenless (some thread) idle _ fun _ => rfl

end Tokens

omit [DecidableEq Thread] in
theorem start_tokens : Tokens (start env : Machine Thread) :=
  ⟨fun _ => ⟨.free, rfl, fun _ => rfl⟩, fun _ _ _ => rfl⟩

theorem reachable_tokens {machine : Machine Thread}
    (reached : Reachable (step env) (Guarded Steady) (start env) machine) : Tokens machine := by
  induction reached with
  | start => exact start_tokens
  | step reached steady taken ih =>
    exact ih.moves (reachable_identified reached) steady (step_moves taken)

def currentReceives (machine : Machine Thread) (index : Index) : List IORequest :=
  machine.server.outstanding.filter fun request =>
    request.operation = .recv ∧ (machine.server.sessions index).socket = some request.socket

/-- In a run whose WSARecv calls are all for the session they re-arm, no session has two receives. -/
theorem receives_at_most_one {machine : Machine Thread}
    (reached : Reachable (step env) (Guarded Steady) (start env) machine) (index : Index) :
    (machine.currentReceives index).length ≤ 1 := by
  have tied := (reachable_identified reached).tied
  obtain ⟨placement, placed⟩ := (reachable_tokens reached).placed
    (machine.server.sessions index).incarnation
  have linked := (tied.linked index).socket
  have fewer : (machine.currentReceives index).length ≤
      machine.server.receives (machine.server.sessions index).incarnation := by
    rw [currentReceives, ← List.countP_eq_length_filter]
    refine Nat.le_trans (List.countP_mono_left fun request member received => ?_)
      (Nat.le_add_right _ _)
    have posted := tied.requests request member
    obtain ⟨kind, current⟩ : request.operation = .recv ∧
        (machine.server.sessions index).socket = some request.socket := by
      simpa using received
    simp [IORequest.receives, kind, ← posted, linked _ current]
  exact Nat.le_trans fewer placed.jobs_le_one

-- A turn of AcceptThread for a new client, once ReleaseSession has nothing left to do.
def acceptClient : List (Turn (Fin 2)) := List.replicate 12 (.run none true)

theorem receives_two :
    ¬ ∀ machine : Machine (Fin 2), Reachable (step Server.oneSlot) Always (start Server.oneSlot) machine →
      ∀ index, (machine.server.sessions index).valid = true →
        (machine.currentReceives index).length ≤ 1 := by
  intro always
  obtain ⟨machine, reached, seen⟩ := Reachable.observe (step Server.oneSlot)
    (start Server.oneSlot : Machine (Fin 2))
    (.accept :: .run none true :: acceptClient ++
      .receive 0 [5] :: .worker 0 0 :: List.replicate 4 (.run (some 0) true) ++
      .requestDisconnectSession 1 1 :: List.replicate 7 (.run (some 1) true) ++
      .accept :: List.replicate 3 (.run none true) ++ acceptClient ++
      List.replicate 2 (.run (some 0) true))
    (fun machine => (machine.server.sessions 0).valid = true ∧
      (machine.currentReceives 0).length = 2) (by decide +kernel)
  obtain ⟨valid, two⟩ := of_decide_eq_true seen
  have one := always machine reached 0 valid
  rw [two] at one
  exact absurd one (by decide)

-- The worker posts the receive of the first client again before the slot goes to the second one.
theorem receives_one :
    ∃ machine : Machine (Fin 2), (machine.server.sessions 0).valid = true ∧
      (machine.server.sessions 0).sessionId = 2 ∧ machine.server.calls = 3 ∧
      machine.currentReceives 0 ≠ [] ∧ (machine.currentReceives 0).length ≤ 1 := by
  obtain ⟨machine, reached, seen⟩ := Reachable.observe (restrict (step Server.oneSlot) (Guarded Steady))
    (start Server.oneSlot : Machine (Fin 2))
    (.accept :: .run none true :: acceptClient ++
      .receive 0 [5] :: .worker 0 0 :: List.replicate 6 (.run (some 0) true) ++
      .requestDisconnectSession 1 1 :: List.replicate 7 (.run (some 1) true) ++
      .accept :: List.replicate 3 (.run none true) ++ acceptClient)
    (fun machine => (machine.server.sessions 0).valid = true ∧
      (machine.server.sessions 0).sessionId = 2 ∧ machine.server.calls = 3 ∧
      machine.currentReceives 0 ≠ []) (by decide +kernel)
  obtain ⟨valid, second, calls, posted⟩ := of_decide_eq_true seen
  exact ⟨machine, valid, second, calls, posted, receives_at_most_one reached.unrestrict 0⟩

end Machine

end MiniGames
