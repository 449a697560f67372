import MiniGames.Shared.Resources
import MiniGames.Shared.Runs

set_option autoImplicit false

namespace MiniGames.Client

open Runs

inductive RecvPc where
  | testRunning
  | testConnected
  | receiving
  | clearConnected
  | clearRunning
  | finished
  deriving DecidableEq, Repr

-- Disconnect is also called by the destructor.
inductive MainPc where
  | idle
  | startingUp
  | creatingSocket
  | connecting
  | settingConnected
  | settingRunning
  | startingThread
  | testingConnected (destroying : Bool)
  | clearingRunning (destroying : Bool)
  | clearingConnected (destroying : Bool)
  | closing (destroying : Bool)
  | joining (destroying : Bool)
  | cleaningUp (destroying : Bool)
  | destroyingMembers
  | destroyed
  | terminated
  deriving DecidableEq, Repr

-- `socket` is none for INVALID_SOCKET, `recvThread` for a thread that is not joinable.
structure CClientNetwork where
  socket : Option Nat
  connected : Bool
  running : Bool
  recvThread : Option RecvPc
  main : MainPc
  sockets : Resources
  startups : Nat
  cleanups : Nat

inductive Call where
  | connect
  | disconnect
  | destructor
  deriving DecidableEq, Repr

-- The booleans are the outcomes of the system's calls: that they succeed, that recv returns data.
inductive Action where
  | call (function : Call)
  | main (succeeds : Bool)
  | recvThread (received : Bool)
  deriving DecidableEq, Repr

namespace CClientNetwork

def start : CClientNetwork :=
  { socket := none
    connected := false
    running := false
    recvThread := none
    main := .idle
    sockets := .empty
    startups := 0
    cleanups := 0 }

def closesocket (network : CClientNetwork) : CClientNetwork :=
  match network.socket with
  | some handle => { network with sockets := network.sockets.release handle }
  | none => network

def cleanup (network : CClientNetwork) : CClientNetwork :=
  { network with cleanups := network.cleanups + 1 }

def goto (network : CClientNetwork) (pc : MainPc) : CClientNetwork := { network with main := pc }

def afterDisconnect (destroying : Bool) : MainPc :=
  if destroying then .destroyingMembers else .idle

def begin : Call → MainPc
  | .connect => .startingUp
  | .disconnect => .testingConnected false
  | .destructor => .testingConnected true

-- The constructor of std::thread may throw; the exception leaves Connect.
def mainStep (network : CClientNetwork) (succeeds : Bool) : Option CClientNetwork :=
  match network.main with
  | .startingUp =>
      if succeeds then
        some { network with startups := network.startups + 1, main := .creatingSocket }
      else some (network.goto .idle)
  | .creatingSocket =>
      if succeeds then
        some { network with
          socket := some network.sockets.acquired
          sockets := network.sockets.acquire
          main := .connecting }
      else some ({ network with socket := none }.cleanup.goto .idle)
  | .connecting =>
      if succeeds then some (network.goto .settingConnected)
      else some (network.closesocket.cleanup.goto .idle)
  | .settingConnected => some { network with connected := true, main := .settingRunning }
  | .settingRunning => some { network with running := true, main := .startingThread }
  | .startingThread =>
      if ¬ succeeds then some (network.goto .idle)
      else if network.recvThread.isSome then some (network.goto .terminated)
      else some { network with recvThread := some .testRunning, main := .idle }
  | .testingConnected destroying =>
      some (network.goto
        (if network.connected then .clearingRunning destroying else afterDisconnect destroying))
  | .clearingRunning destroying =>
      some { network with running := false, main := .clearingConnected destroying }
  | .clearingConnected destroying =>
      some { network with connected := false, main := .closing destroying }
  | .closing destroying =>
      some { network.closesocket with socket := none, main := .joining destroying }
  | .joining destroying =>
      match network.recvThread with
      | none => some (network.goto (.cleaningUp destroying))
      | some .finished => some { network with recvThread := none, main := .cleaningUp destroying }
      | some _ => none
  | .cleaningUp destroying => some (network.cleanup.goto (afterDisconnect destroying))
  | .destroyingMembers =>
      some (network.goto (if network.recvThread.isSome then .terminated else .destroyed))
  | .idle | .destroyed | .terminated => none

def recvStep (network : CClientNetwork) (received : Bool) : Option CClientNetwork :=
  match network.recvThread with
  | some .testRunning =>
      some { network with
        recvThread := some (if network.running then .testConnected else .finished) }
  | some .testConnected =>
      some { network with
        recvThread := some (if network.connected then .receiving else .finished) }
  | some .receiving =>
      some { network with
        recvThread := some (if received then .testRunning else .clearConnected) }
  | some .clearConnected =>
      some { network with connected := false, recvThread := some .clearRunning }
  | some .clearRunning =>
      some { network with running := false, recvThread := some .finished }
  | some .finished | none => none

def step (network : CClientNetwork) : Action → Option CClientNetwork
  | .call function =>
      if network.main = .idle then some (network.goto (begin function)) else none
  | .main succeeds => network.mainStep succeeds
  | .recvThread received =>
      if network.main = .terminated then none else network.recvStep received

def Ended (network : CClientNetwork) : Prop :=
  network.main = .destroyed ∨ network.main = .terminated

structure CleanedUp (network : CClientNetwork) : Prop where
  destroyed : network.main = .destroyed
  closed : ∀ handle < network.sockets.acquired, network.sockets.released.count handle = 1
  matched : network.cleanups = network.startups

-- Disconnect is past its test of `_connected`.
def disconnecting (network : CClientNetwork) : Bool :=
  match network.main with
  | .clearingRunning _ | .clearingConnected _ | .closing _ | .joining _ | .cleaningUp _ => true
  | _ => false

/-- RecvThread clears `_connected` during a Disconnect only, and a Connect starts unconnected. -/
def Meets (network : CClientNetwork) : Action → Prop
  | .call _ => True
  | .main succeeds =>
      network.main = .startingUp → succeeds = true → network.connected = false
  | .recvThread _ =>
      network.recvThread = some .clearConnected → network.disconnecting = true

instance (network : CClientNetwork) : ∀ action, Decidable (network.Meets action)
  | .call _ => inferInstanceAs (Decidable True)
  | .main succeeds => inferInstanceAs (Decidable
      (network.main = .startingUp → succeeds = true → network.connected = false))
  | .recvThread _ => inferInstanceAs (Decidable
      (network.recvThread = some .clearConnected → network.disconnecting = true))

structure Disconnected (network : CClientNetwork) : Prop where
  connected : network.connected = false
  recvThread : network.recvThread = none
  sockets : network.sockets.Balanced
  startups : network.startups = network.cleanups

-- Disconnect will close the only open socket.
def Owns (network : CClientNetwork) : Prop :=
  network.startups = network.cleanups + 1 ∧
    ∃ handle, network.socket = some handle ∧ network.sockets.Holds handle

def Good (network : CClientNetwork) : Prop :=
  match network.main with
  | .idle | .startingUp | .testingConnected _ =>
      network.Disconnected ∨ network.connected = true ∧ network.Owns
  | .creatingSocket =>
      network.connected = false ∧ network.recvThread = none ∧ network.sockets.Balanced ∧
        network.startups = network.cleanups + 1
  | .connecting | .settingConnected =>
      network.connected = false ∧ network.recvThread = none ∧ network.Owns
  | .settingRunning | .startingThread =>
      network.connected = true ∧ network.recvThread = none ∧ network.Owns
  | .clearingRunning _ | .clearingConnected _ => network.Owns
  | .closing _ => network.connected = false ∧ network.Owns
  | .joining _ =>
      network.connected = false ∧ network.sockets.Balanced ∧
        network.startups = network.cleanups + 1
  | .cleaningUp _ =>
      network.connected = false ∧ network.recvThread = none ∧ network.sockets.Balanced ∧
        network.startups = network.cleanups + 1
  | .destroyingMembers | .destroyed => network.Disconnected
  | .terminated => False

-- A joinable thread that no Disconnect will join.
def Abandoned (network : CClientNetwork) : Prop :=
  network.connected = false ∧ network.recvThread.isSome = true ∧
    match network.main with
    | .idle | .startingUp | .testingConnected _ | .destroyingMembers => True
    | _ => False

/-- The process was terminated, or a socket is open that nothing will close. -/
def Lost (network : CClientNetwork) : Prop :=
  network.main = .terminated ∨ ∃ handle, network.sockets.Outstanding handle ∧
    (network.socket ≠ some handle ∨ network.main = .creatingSocket ∨ network.Abandoned)

variable {network next : CClientNetwork}

theorem closesocket_frame (network : CClientNetwork) :
    ∃ sockets, network.closesocket = { network with sockets } := by
  unfold closesocket
  split
  · exact ⟨_, rfl⟩
  · exact ⟨network.sockets, rfl⟩

theorem Owns.closesocket (owned : network.Owns) : network.closesocket.sockets.Balanced := by
  obtain ⟨_, handle, stored, held⟩ := owned
  simp only [CClientNetwork.closesocket, stored]
  exact held.release

theorem start_good : start.Good := .inl ⟨rfl, rfl, Resources.balanced_empty, rfl⟩

theorem Disconnected.goto (down : network.Disconnected) (pc : MainPc) :
    (network.goto pc).Disconnected :=
  ⟨down.connected, down.recvThread, down.sockets, down.startups⟩

theorem Disconnected.left (down : network.Disconnected) (destroying : Bool) :
    (network.goto (afterDisconnect destroying)).Good := by
  cases destroying with
  | false => exact .inl (down.goto _)
  | true => exact down.goto _

theorem Good.mainStep {succeeds : Bool} (good : network.Good)
    (meets : network.Meets (.main succeeds)) (taken : network.mainStep succeeds = some next) :
    next.Good := by
  cases pc : network.main <;> simp only [CClientNetwork.mainStep, Good, pc] at taken good
  case idle | destroyed => cases taken
  case startingUp =>
    cases succeeds with
    | false =>
      cases taken
      exact good.imp (·.goto _) id
    | true =>
      have apart := meets pc rfl
      rcases good with down | ⟨up, _⟩
      · cases taken
        exact ⟨apart, down.recvThread, down.sockets, congrArg (· + 1) down.startups⟩
      · rw [apart] at up
        cases up
  case creatingSocket =>
    obtain ⟨apart, none, balanced, outstanding⟩ := good
    cases succeeds with
    | false =>
      cases taken
      exact .inl ⟨apart, none, balanced, outstanding⟩
    | true =>
      cases taken
      exact ⟨apart, none, outstanding, _, rfl, balanced.acquire⟩
  case connecting =>
    obtain ⟨apart, none, owned⟩ := good
    cases succeeds with
    | false =>
      cases taken
      have balanced := owned.closesocket
      obtain ⟨sockets, closed⟩ := network.closesocket_frame
      rw [closed] at balanced ⊢
      exact .inl ⟨apart, none, balanced, owned.1⟩
    | true =>
      cases taken
      exact ⟨apart, none, owned⟩
  case settingConnected =>
    cases taken
    exact ⟨rfl, good.2⟩
  case settingRunning =>
    cases taken
    exact good
  case startingThread =>
    obtain ⟨up, none, owned⟩ := good
    cases succeeds with
    | false =>
      cases taken
      exact .inr ⟨up, owned⟩
    | true =>
      simp only [none] at taken
      cases taken
      exact .inr ⟨up, owned⟩
  case testingConnected destroying =>
    rcases good with down | ⟨up, owned⟩
    · simp only [down.connected] at taken
      cases taken
      exact down.left destroying
    · simp only [up, if_true] at taken
      cases taken
      exact owned
  case clearingRunning destroying =>
    cases taken
    exact good
  case clearingConnected destroying =>
    cases taken
    exact ⟨rfl, good⟩
  case closing destroying =>
    obtain ⟨apart, owned⟩ := good
    cases taken
    have balanced := owned.closesocket
    obtain ⟨sockets, closed⟩ := network.closesocket_frame
    rw [closed] at balanced ⊢
    exact ⟨apart, balanced, owned.1⟩
  case joining destroying =>
    obtain ⟨apart, settled⟩ := good
    split at taken
    · next none =>
      cases taken
      exact ⟨apart, none, settled⟩
    · cases taken
      exact ⟨apart, rfl, settled⟩
    · cases taken
  case cleaningUp destroying =>
    obtain ⟨apart, none, balanced, outstanding⟩ := good
    cases taken
    have down : network.cleanup.Disconnected := ⟨apart, none, balanced, outstanding⟩
    exact down.left destroying
  case destroyingMembers =>
    simp only [good.recvThread] at taken
    cases taken
    exact good.goto _

theorem recvStep_cases {received : Bool} (taken : network.recvStep received = some next) :
    ∃ pc connected running, next = { network with recvThread := some pc, connected, running } ∧
      (connected = network.connected ∨
        network.recvThread = some .clearConnected ∧ connected = false) := by
  unfold recvStep at taken
  split at taken
  · cases taken
    exact ⟨_, _, _, rfl, .inl rfl⟩
  · cases taken
    exact ⟨_, _, _, rfl, .inl rfl⟩
  · cases taken
    exact ⟨_, _, _, rfl, .inl rfl⟩
  · next pc =>
    cases taken
    exact ⟨_, _, _, rfl, .inr ⟨pc, rfl⟩⟩
  · cases taken
    exact ⟨_, _, _, rfl, .inl rfl⟩
  · cases taken
  · cases taken

theorem recvStep_joinable {received : Bool} (taken : network.recvStep received = some next) :
    network.recvThread ≠ none := by
  intro none
  simp only [recvStep, none] at taken
  cases taken

theorem Good.recvStep {received : Bool} (good : network.Good)
    (meets : network.Meets (.recvThread received))
    (taken : network.recvStep received = some next) : next.Good := by
  have joinable := recvStep_joinable taken
  obtain ⟨thread, connected, running, rfl, kept⟩ := recvStep_cases taken
  cases pc : network.main <;> simp only [Good, pc] at good ⊢
  case idle | startingUp | testingConnected destroying =>
    rcases kept with rfl | ⟨clearing, _⟩
    · exact good.imp (fun down => absurd down.recvThread joinable) id
    · have busy := meets clearing
      simp only [disconnecting, pc] at busy
      cases busy
  case creatingSocket | connecting | settingConnected | settingRunning | startingThread |
      cleaningUp destroying => exact absurd good.2.1 joinable
  case clearingRunning destroying | clearingConnected destroying => exact good
  case closing destroying | joining destroying =>
    rcases kept with rfl | ⟨_, rfl⟩
    · exact good
    · exact ⟨rfl, good.2⟩
  case destroyingMembers | destroyed => exact absurd good.recvThread joinable

theorem Good.step {action : Action} (good : network.Good) (meets : network.Meets action)
    (taken : network.step action = some next) : next.Good := by
  cases action with
  | call function =>
    simp only [CClientNetwork.step] at taken
    split at taken
    · next idle =>
      cases taken
      simp only [Good, idle] at good
      have kept : ∀ pc, (network.goto pc).Disconnected ∨
          (network.goto pc).connected = true ∧ (network.goto pc).Owns :=
        fun pc => good.imp (·.goto pc) id
      cases function <;> exact kept _
    · cases taken
  | main succeeds => exact good.mainStep meets taken
  | recvThread received =>
    simp only [CClientNetwork.step] at taken
    split at taken
    · cases taken
    · exact good.recvStep meets taken

variable {handle : Nat}

theorem closesocket_outstanding (outstanding : network.sockets.Outstanding handle)
    (forgotten : network.socket ≠ some handle) :
    network.closesocket.sockets.Outstanding handle := by
  unfold closesocket
  split
  · next other stored =>
    apply outstanding.release
    rintro rfl
    exact forgotten stored
  · exact outstanding

theorem forgotten_mainStep {succeeds : Bool} (outstanding : network.sockets.Outstanding handle)
    (forgotten : network.socket ≠ some handle)
    (taken : network.mainStep succeeds = some next) :
    next.sockets.Outstanding handle ∧ next.socket ≠ some handle := by
  cases pc : network.main <;> simp only [CClientNetwork.mainStep, pc] at taken
  case idle | destroyed | terminated => cases taken
  case startingUp =>
    cases succeeds <;> cases taken <;> exact ⟨outstanding, forgotten⟩
  case creatingSocket =>
    cases succeeds with
    | false =>
      cases taken
      exact ⟨outstanding, Option.some_ne_none handle ∘ Eq.symm⟩
    | true =>
      cases taken
      exact ⟨outstanding.acquire, fun same => outstanding.older (Option.some.inj same)⟩
  case connecting =>
    cases succeeds with
    | false =>
      cases taken
      have kept := closesocket_outstanding outstanding forgotten
      obtain ⟨sockets, closed⟩ := network.closesocket_frame
      rw [closed] at kept ⊢
      exact ⟨kept, forgotten⟩
    | true =>
      cases taken
      exact ⟨outstanding, forgotten⟩
  case settingConnected | settingRunning | testingConnected | clearingRunning |
      clearingConnected | cleaningUp | destroyingMembers =>
    cases taken
    exact ⟨outstanding, forgotten⟩
  case startingThread =>
    split at taken
    · cases taken
      exact ⟨outstanding, forgotten⟩
    · split at taken <;> cases taken <;> exact ⟨outstanding, forgotten⟩
  case closing destroying =>
    cases taken
    exact ⟨closesocket_outstanding outstanding forgotten, Option.some_ne_none handle ∘ Eq.symm⟩
  case joining destroying =>
    split at taken <;> cases taken <;> exact ⟨outstanding, forgotten⟩

theorem Lost.mainStep {succeeds : Bool} (lost : network.Lost)
    (taken : network.mainStep succeeds = some next) : next.Lost := by
  rcases lost with ended | ⟨handle, outstanding, forgotten | creating | abandoned⟩
  · simp only [CClientNetwork.mainStep, ended] at taken
    cases taken
  · obtain ⟨still, never⟩ := forgotten_mainStep outstanding forgotten taken
    exact .inr ⟨handle, still, .inl never⟩
  · simp only [CClientNetwork.mainStep, creating] at taken
    cases succeeds with
    | false =>
      cases taken
      exact .inr ⟨handle, outstanding, .inl (Option.some_ne_none handle ∘ Eq.symm)⟩
    | true =>
      cases taken
      exact .inr ⟨handle, outstanding.acquire,
        .inl fun same => outstanding.older (Option.some.inj same)⟩
  · obtain ⟨apart, joinable, outside⟩ := abandoned
    cases pc : network.main <;> simp only [CClientNetwork.mainStep, pc] at taken outside
    case idle => cases taken
    case startingUp =>
      cases succeeds with
      | false =>
        cases taken
        exact .inr ⟨handle, outstanding, .inr (.inr ⟨apart, joinable, trivial⟩)⟩
      | true =>
        cases taken
        exact .inr ⟨handle, outstanding, .inr (.inl rfl)⟩
    case testingConnected destroying =>
      simp only [apart] at taken
      cases taken
      refine .inr ⟨handle, outstanding, .inr (.inr ⟨apart, joinable, ?_⟩)⟩
      cases destroying <;> trivial
    case destroyingMembers =>
      simp only [joinable, if_true] at taken
      cases taken
      exact .inl rfl

theorem Lost.step {action : Action} (lost : network.Lost)
    (taken : network.step action = some next) : next.Lost := by
  cases action with
  | call function =>
    simp only [CClientNetwork.step] at taken
    split at taken
    · next idle =>
      cases taken
      rcases lost with ended | ⟨handle, outstanding, forgotten | creating | abandoned⟩
      · rw [ended] at idle
        cases idle
      · exact .inr ⟨handle, outstanding, .inl forgotten⟩
      · rw [creating] at idle
        cases idle
      · refine .inr ⟨handle, outstanding, .inr (.inr ⟨abandoned.1, abandoned.2.1, ?_⟩)⟩
        cases function <;> trivial
    · cases taken
  | main succeeds => exact lost.mainStep taken
  | recvThread received =>
    simp only [CClientNetwork.step] at taken
    split at taken
    · cases taken
    · next alive =>
      obtain ⟨thread, connected, running, rfl, kept⟩ := recvStep_cases taken
      rcases lost with ended | ⟨handle, outstanding, forgotten | creating | abandoned⟩
      · exact absurd ended alive
      · exact .inr ⟨handle, outstanding, .inl forgotten⟩
      · exact .inr ⟨handle, outstanding, .inr (.inl creating)⟩
      · have apart : connected = false := by
          rcases kept with rfl | ⟨_, rfl⟩
          · exact abandoned.1
          · rfl
        exact .inr ⟨handle, outstanding, .inr (.inr ⟨apart, rfl, abandoned.2.2⟩)⟩

theorem Good.lost {action : Action} (good : network.Good) (breaks : ¬ network.Meets action)
    (taken : network.step action = some next) : next.Lost := by
  cases action with
  | call function => exact absurd trivial breaks
  | main succeeds =>
    simp only [Meets, Classical.not_imp, Bool.not_eq_false] at breaks
    obtain ⟨pc, rfl, up⟩ := breaks
    simp only [Good, pc] at good
    rcases good with down | ⟨_, _, handle, _, held⟩
    · rw [down.connected] at up
      cases up
    · simp only [CClientNetwork.step, CClientNetwork.mainStep, pc] at taken
      cases taken
      exact .inr ⟨handle, held.outstanding, .inr (.inl rfl)⟩
  | recvThread received =>
    simp only [Meets, Classical.not_imp, Bool.not_eq_true] at breaks
    obtain ⟨clearing, outside⟩ := breaks
    have alive : network.main ≠ .terminated := by
      intro ended
      simp only [Good, ended] at good
    simp only [CClientNetwork.step, alive, if_false, CClientNetwork.recvStep, clearing] at taken
    cases taken
    cases pc : network.main <;> simp only [Good, pc] at good
    case idle | startingUp | testingConnected =>
      rcases good with down | ⟨_, _, handle, _, held⟩
      · rw [down.recvThread] at clearing
        cases clearing
      · exact .inr ⟨handle, held.outstanding, .inr (.inr ⟨rfl, rfl, trivial⟩)⟩
    case creatingSocket | connecting | settingConnected | settingRunning | startingThread =>
      rw [good.2.1] at clearing
      cases clearing
    case destroyingMembers | destroyed =>
      rw [good.recvThread] at clearing
      cases clearing
    case clearingRunning | clearingConnected | closing | joining | cleaningUp =>
      simp only [disconnecting, pc] at outside
      cases outside

theorem Good.cleanedUp (good : network.Good) (ended : network.Ended) : network.CleanedUp := by
  rcases ended with destroyed | terminated
  · simp only [Good, destroyed] at good
    exact ⟨destroyed, fun handle older => (good.sockets handle).trans (if_pos older),
      good.startups.symm⟩
  · simp only [Good, terminated] at good

theorem Lost.not_cleanedUp (lost : network.Lost) : ¬ network.CleanedUp := by
  intro cleaned
  rcases lost with terminated | ⟨handle, outstanding, _⟩
  · rw [cleaned.destroyed] at terminated
    cases terminated
  · exact outstanding.not_once (cleaned.closed handle outstanding.1)

theorem cleaned_up_iff {actions : List Action} {final : CClientNetwork}
    (run : execute step start actions = some final) (ended : final.Ended) :
    final.CleanedUp ↔ Allowed step Meets start actions := by
  have preserved (network : CClientNetwork) (action : Action) (next : CClientNetwork) :
      network.Good → network.Meets action → network.step action = some next → next.Good :=
    Good.step
  constructor
  · intro cleaned
    by_contra broken
    have spoils (network : CClientNetwork) (action : Action) (next : CClientNetwork) :
        network.Good → ¬ network.Meets action → network.step action = some next → next.Lost :=
      Good.lost
    have kept (network : CClientNetwork) (action : Action) (next : CClientNetwork) :
        network.Lost → network.step action = some next → next.Lost := Lost.step
    have lost := Allowed.spoiled preserved spoils kept start_good broken run
    exact lost.not_cleanedUp cleaned
  · intro every
    have good := every.invariant preserved start_good run
    exact good.cleanedUp ended

def connectCall : List Action := .call .connect :: .replicate 6 (.main true)

-- The receive thread finds `_running` cleared while the destructor waits for it.
def session : List Action :=
  connectCall ++ .call .destructor :: .replicate 4 (.main true) ++
    .recvThread false :: .replicate 3 (.main true)

theorem cleaned_up_session : ∃ final, execute step start session = some final ∧
    final.CleanedUp := by
  refine ⟨_, rfl, ?_⟩
  have met : Allowed step Meets start session := by decide
  have run : execute step start session = some _ := rfl
  exact (cleaned_up_iff run (.inl rfl)).mpr met

-- The server closes the connection, and the object is destroyed after that.
def lostSession : List Action :=
  connectCall ++ .replicate 5 (.recvThread false) ++
    .call .destructor :: .replicate 2 (.main true)

theorem not_cleaned_up_lost : ¬ ∀ actions final,
    execute step start actions = some final → final.Ended → final.CleanedUp := by
  intro always
  have run : execute step start lostSession = some _ := rfl
  have cleaned := always lostSession _ run (.inr rfl)
  cases cleaned.destroyed

theorem progress (going : ¬ network.Ended) : ∃ action next, network.step action = some next := by
  have possible (action : Action) (taken : (network.step action).isSome = true) :
      ∃ action next, network.step action = some next :=
    ⟨action, Option.isSome_iff_exists.mp taken⟩
  cases pc : network.main with
  | idle =>
    apply possible (.call .connect)
    simp only [step, pc, if_true, Option.isSome_some]
  | joining destroying =>
    cases thread : network.recvThread with
    | none =>
      apply possible (.main false)
      simp only [step, mainStep, pc, thread, Option.isSome_some]
    | some waiting =>
      cases waiting with
      | finished =>
        apply possible (.main false)
        simp only [step, mainStep, pc, thread, Option.isSome_some]
      | _ =>
        apply possible (.recvThread false)
        simp only [step, pc, reduceCtorEq, if_false, recvStep, thread, Option.isSome_some]
  | destroyed => exact absurd (.inl pc) going
  | terminated => exact absurd (.inr pc) going
  | _ =>
    apply possible (.main false)
    simp only [step, mainStep, pc]
    rfl

end CClientNetwork

def RecvPc.remaining : RecvPc → Nat
  | .receiving => 3
  | .testRunning | .clearConnected => 2
  | .testConnected | .clearRunning => 1
  | .finished => 0

namespace CClientNetwork

variable {network next : CClientNetwork}

theorem recvStep_closer {received : Bool} {pc : RecvPc} (apart : network.connected = false)
    (thread : network.recvThread = some pc) (taken : network.recvStep received = some next) :
    next.connected = false ∧
      ∃ later, next.recvThread = some later ∧ later.remaining < pc.remaining := by
  cases pc <;> simp only [recvStep, thread] at taken <;> cases taken
  case testRunning => refine ⟨apart, _, rfl, ?_⟩; cases network.running <;> decide
  case testConnected => refine ⟨apart, _, rfl, ?_⟩; rw [apart]; decide
  case receiving => refine ⟨apart, _, rfl, ?_⟩; cases received <;> decide
  case clearConnected => exact ⟨rfl, _, rfl, by decide⟩
  case clearRunning => exact ⟨apart, _, rfl, by decide⟩

-- A join waits for three steps of RecvThread at most, whatever `recv` returns.
theorem join_waits {outcomes : List Bool} {final : CClientNetwork} {pc : RecvPc}
    (apart : network.connected = false) (thread : network.recvThread = some pc)
    (run : execute step network (outcomes.map .recvThread) = some final) :
    outcomes.length ≤ pc.remaining := by
  induction outcomes generalizing network pc with
  | nil => exact Nat.zero_le _
  | cons received rest ih =>
    obtain ⟨next, taken, later⟩ := Option.bind_eq_some_iff.mp run
    simp only [step] at taken
    split at taken
    · cases taken
    · obtain ⟨still, rest_pc, rest_thread, closer⟩ := recvStep_closer apart thread taken
      have rest_waits := ih still rest_thread later
      rw [List.length_cons]
      omega

end CClientNetwork

end MiniGames.Client
