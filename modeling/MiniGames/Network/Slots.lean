import MiniGames.Network.Handlers
import MiniGames.Network.Incarnations

set_option autoImplicit false

namespace MiniGames

open Circular Runs

-- The indices that Start pushes onto `_availableIndices`.
def freshIndices (maxClients : Nat) : List Index := (List.range maxClients).map (BitVec.ofNat 16)

theorem freshIndices_count {maxClients : Nat} (few : maxClients ≤ 65535) (index : Index) :
    (freshIndices maxClients).count index = if index.toNat < maxClients then 1 else 0 := by
  have member : index ∈ freshIndices maxClients ↔ index.toNat < maxClients := by
    simp only [freshIndices, List.mem_map, List.mem_range]
    refine ⟨?_, fun inside => ⟨index.toNat, inside, by simp⟩⟩
    rintro ⟨i, inside, rfl⟩
    rw [BitVec.toNat_ofNat, Nat.mod_eq_of_lt (by omega)]
    exact inside
  have apart : (freshIndices maxClients).Nodup := by
    refine List.Nodup.map_on (fun i inside j within same => ?_) List.nodup_range
    rw [List.mem_range] at inside within
    have values := congrArg BitVec.toNat same
    rwa [BitVec.toNat_ofNat, BitVec.toNat_ofNat, Nat.mod_eq_of_lt (by omega),
      Nat.mod_eq_of_lt (by omega)] at values
  split
  · next inside => exact List.count_eq_one_of_mem apart (member.mpr inside)
  · next outside => exact List.count_eq_zero.mpr fun present => outside (member.mp present)

namespace Server

-- A session without an open socket that `_valid` still calls connected is not `Settled`.
def Settled (server : Server) (index : Index) : Prop :=
  (server.sessions index).valid = true → (server.sessions index).socket.isSome = true

instance (server : Server) (index : Index) : Decidable (server.Settled index) :=
  inferInstanceAs (Decidable (_ → _))

def waiting (server : Server) (index : Index) : Nat :=
  server.pendingDisconStack.countP fun sessionId => extractIndex sessionId = index

-- `bound` tells for each slot whether BindIOCP succeeded when it was last taken.
def occupied (bound : Index → Bool) (server : Server) (index : Index) : Bool :=
  (server.sessions index).valid && bound index

def places (bound : Index → Bool) (server : Server) (index : Index) : Nat :=
  server.availableIndices.count index + (occupied bound server index).toNat + server.waiting index

structure Slots (env : Environment) (bound : Index → Bool) (server : Server) : Prop where
  counted : ∀ index, places bound server index = if index.toNat < env.maxClients then 1 else 0
  free : ∀ index ∈ server.availableIndices, (server.sessions index).socket = none
  queued : ∀ sessionId ∈ server.pendingDisconStack,
    (server.sessions (extractIndex sessionId)).sessionId = sessionId ∧
      (server.sessions (extractIndex sessionId)).valid = false ∧
      (server.sessions (extractIndex sessionId)).socket = none
  opened : ∀ index, (server.sessions index).socket.isSome = occupied bound server index
  placed : ∀ index, server.Settled index →
    extractIndex (server.sessions index).sessionId = index

namespace Slots

variable {env : Environment} {bound : Index → Bool} {server next : Server} {index : Index}

theorem once (slots : Slots env bound server) (index : Index)
    (some : 0 < places bound server index) :
    places bound server index = 1 ∧ index.toNat < env.maxClients := by
  have total := slots.counted index
  split at total
  · next inside => exact ⟨total, inside⟩
  · omega

theorem keep (slots : Slots env bound server)
    (valid : ∀ index, (next.sessions index).valid = (server.sessions index).valid)
    (socket : ∀ index, (next.sessions index).socket = (server.sessions index).socket)
    (sessionId : ∀ index, (next.sessions index).sessionId = (server.sessions index).sessionId)
    (availableIndices : next.availableIndices = server.availableIndices)
    (pendingDisconStack : next.pendingDisconStack = server.pendingDisconStack) :
    Slots env bound next where
  counted index := by
    have total := slots.counted index
    simpa only [Server.places, occupied, Server.waiting, valid, availableIndices,
      pendingDisconStack] using total
  free index member := by
    rw [socket]
    exact slots.free index (by rwa [availableIndices] at member)
  queued id member := by
    rw [valid, socket, sessionId]
    exact slots.queued id (by rwa [pendingDisconStack] at member)
  opened index := by
    simp only [occupied, valid, socket]
    exact slots.opened index
  placed index settled := by
    rw [sessionId]
    exact slots.placed index (by simpa only [Settled, valid, socket] using settled)

theorem alike (slots : Slots env bound server) (alike : Alike server next) :
    Slots env bound next :=
  slots.keep alike.valid alike.socket alike.sessionId alike.availableIndices
    alike.pendingDisconStack

theorem disconnected (slots : Slots env bound server) (settled : server.Settled index)
    (valid : (server.sessions index).valid = true) (gone : Disconnected server next index) :
    Slots env bound next := by
  have taken : occupied bound server index = true := by rw [← slots.opened, settled valid]
  have placed := slots.placed index settled
  have total := (slots.once index (by simp only [Server.places, taken, Bool.toNat_true]; omega)).1
  simp only [Server.places, taken, Bool.toNat_true] at total
  have unavailable : server.availableIndices.count index = 0 := by omega
  have unwaiting : server.waiting index = 0 := by omega
  have elsewhere {other : Index} (apart : other ≠ index) :
      occupied bound next other = occupied bound server other := by
    simp only [occupied, gone.others other apart]
  have given : occupied bound next index = false := by simp [occupied, gone.valid]
  refine ⟨fun other => ?_, fun other member => ?_, fun id member => ?_, fun other => ?_,
    fun other still => ?_⟩
  · have before := slots.counted other
    simp only [Server.places, Server.waiting, gone.availableIndices, gone.pendingDisconStack,
      List.countP_cons, placed] at before ⊢
    by_cases same : other = index
    · subst same
      simp only [taken, given, Bool.toNat_true, Bool.toNat_false, decide_true, if_true] at before ⊢
      omega
    · simpa [elsewhere same, Ne.symm same] using before
  · rw [gone.availableIndices] at member
    have apart : other ≠ index := by
      rintro rfl
      exact List.count_eq_zero.mp unavailable member
    rw [gone.others other apart]
    exact slots.free other member
  · rw [gone.pendingDisconStack] at member
    rcases List.mem_cons.mp member with rfl | old
    · rw [placed]
      exact ⟨gone.sessionId, gone.valid, gone.socket⟩
    · have apart : extractIndex id ≠ index := by
        simpa using (List.countP_eq_zero.mp unwaiting) id old
      rw [gone.others _ apart]
      exact slots.queued id old
  · by_cases same : other = index
    · subst same
      rw [gone.socket, given]
      rfl
    · rw [gone.others other same, elsewhere same]
      exact slots.opened other
  · by_cases same : other = index
    · subst same
      rw [gone.sessionId]
      exact placed
    · rw [gone.others other same]
      refine slots.placed other ?_
      simpa only [Settled, gone.others other same] using still

theorem handled (env : Environment) (bound : Index → Bool) :
    Handled env fun server index => Slots env bound server ∧ server.Settled index where
  alike := by
    rintro server next alike index ⟨slots, settled⟩
    refine ⟨slots.alike alike, ?_⟩
    simpa only [Settled, alike.valid, alike.socket] using settled
  disconnect := by
    rintro server index ⟨slots, settled⟩ other ⟨_, still⟩
    rcases disconnect_cases env server index with ⟨_, same⟩ | ⟨valid, gone⟩
    · rw [same]
      exact ⟨slots, still⟩
    · refine ⟨slots.disconnected settled valid gone, ?_⟩
      by_cases same : other = index
      · subst same
        simp [Settled, gone.valid]
      · simpa only [Settled, gone.others other same] using still
  own := by
    rintro server index other ⟨slots, settled⟩ found
    rw [(findSession_eq found).1, slots.placed index settled]
    exact ⟨slots, settled⟩

theorem releaseOne {sessionId : SessionId} {rest : List SessionId}
    (slots : Slots env bound server)
    (top : server.pendingDisconStack = sessionId :: rest) :
    Slots env bound ({ server with pendingDisconStack := rest }.releaseOne env sessionId) := by
  have member : sessionId ∈ server.pendingDisconStack := by rw [top]; exact List.mem_cons_self
  obtain ⟨named, invalid, closed⟩ := slots.queued sessionId member
  have counted : 0 < server.waiting (extractIndex sessionId) :=
    List.countP_pos_iff.mpr ⟨sessionId, member, by simp⟩
  have inside := (slots.once (extractIndex sessionId) (by simp [Server.places]; omega)).2
  have found : findSession env { server with pendingDisconStack := rest } sessionId =
      some (extractIndex sessionId) := by
    simp [findSession, Nat.not_le.mpr inside, named]
  have unchanged : close { server with pendingDisconStack := rest } (extractIndex sessionId) =
      { server with pendingDisconStack := rest } := by
    simp [close, closed]
  simp only [Server.releaseOne, found, unchanged]
  refine ⟨fun other => ?_, fun other free => ?_, fun id pending => ?_, slots.opened, slots.placed⟩
  · have before := slots.counted other
    simp only [Server.places, Server.waiting, top, List.countP_cons, List.count_append,
      List.count_singleton, occupied] at before ⊢
    by_cases same : extractIndex sessionId = other
    · subst same
      simp only [decide_true, if_true, beq_self_eq_true] at before ⊢
      omega
    · simpa [same] using before
  · rcases List.mem_append.mp free with old | new
    · exact slots.free other old
    · rw [List.mem_singleton.mp new]
      exact closed
  · exact slots.queued id (by rw [top]; exact List.mem_cons_of_mem _ pending)

theorem releaseSession (slots : Slots env bound server) :
    Slots env bound (server.releaseSession env) :=
  releaseAll_invariant (fun _ _ _ slots top => slots.releaseOne top) _ _ rfl slots

theorem released (slots : Slots env bound server) : Slots env bound (server.released env) := by
  have accepted : Slots env bound { server with accepted := server.accepted + 1 } :=
    slots.keep (fun _ => rfl) (fun _ => rfl) (fun _ => rfl) rfl rfl
  exact accepted.releaseSession

theorem taken (slots : Slots env bound server) {rest : List Index}
    (front : server.availableIndices = index :: rest) (clientSocket : Socket) :
    Slots env (Function.update bound index true) (server.takeSlot clientSocket index rest) := by
  have made := extractIndex_makeSessionId index (server.sessionIdCounter &&& sessionUniqueMask)
  simp only [takeSlot]
  obtain ⟨total, inside⟩ := slots.once index (by simp only [Server.places, front, List.count_cons_self]; omega)
  simp only [Server.places, front, List.count_cons_self] at total
  have absent : index ∉ rest := List.count_eq_zero.mp (by omega)
  have unwaiting : server.waiting index = 0 := by omega
  have given : (occupied bound server index).toNat = 0 := by omega
  refine ⟨fun other => ?_, fun other free => ?_, fun id pending => ?_, fun other => ?_,
    fun other settled => ?_⟩
  · have before := slots.counted other
    simp only [Server.places, Server.waiting, front, occupied, modify_sessions] at before ⊢
    by_cases same : other = index
    · subst same
      have still := unwaiting
      simp only [Server.waiting] at still
      simp only [modify, if_true, Function.update_self, still, if_pos inside,
        List.count_eq_zero.mpr absent]
      rfl
    · simpa [modify, same, Ne.symm same] using before
  · have apart : other ≠ index := by
      rintro rfl
      exact absent free
    rw [modify_sessions, if_neg apart]
    exact slots.free other (by rw [front]; exact List.mem_cons_of_mem _ free)
  · have apart : extractIndex id ≠ index := by
      simpa using (List.countP_eq_zero.mp unwaiting) id pending
    rw [modify_sessions, if_neg apart]
    exact slots.queued id pending
  · simp only [occupied, modify_sessions]
    by_cases same : other = index
    · subst same
      simp only [if_true, Function.update_self]
      rfl
    · simpa [same, occupied] using slots.opened other
  · simp only [Settled, modify_sessions] at settled ⊢
    by_cases same : other = index
    · subst same
      rw [if_pos rfl]
      exact made
    · simp only [same, if_false] at settled ⊢
      exact slots.placed other settled

theorem returned (slots : Slots env (Function.update bound index true) server)
    (valid : (server.sessions index).valid = true) :
    Slots env (Function.update bound index false)
      { server.close index with
        availableIndices := (server.close index).availableIndices ++ [index] } := by
  have taken : occupied (Function.update bound index true) server index = true := by
    simp [occupied, valid]
  obtain ⟨total, inside⟩ := slots.once index (by simp only [Server.places, taken, Bool.toNat_true]; omega)
  simp only [Server.places, taken, Bool.toNat_true] at total
  have absent : index ∉ server.availableIndices := List.count_eq_zero.mp (by omega)
  have unwaiting : server.waiting index = 0 := by omega
  obtain ⟨availableIndices, pendingDisconStack, _⟩ := server.close_fields index
  refine ⟨fun other => ?_, fun other free => ?_, fun id pending => ?_, fun other => ?_,
    fun other settled => ?_⟩
  · have before := slots.counted other
    simp only [Server.places, Server.waiting, occupied, close_sessions, availableIndices,
      pendingDisconStack, List.count_append, List.count_singleton] at before ⊢
    by_cases same : other = index
    · subst same
      have still := unwaiting
      simp only [Server.waiting] at still
      simp [still, inside, List.count_eq_zero.mpr absent]
    · simpa [same, Ne.symm same] using before
  · simp only [close_sessions]
    split
    · rfl
    · next apart =>
      simp only [availableIndices, List.mem_append, List.mem_singleton, apart, or_false] at free
      exact slots.free other free
  · simp only [pendingDisconStack] at pending
    have apart : extractIndex id ≠ index := by
      simpa using (List.countP_eq_zero.mp unwaiting) id pending
    simp only [close_sessions, if_neg apart]
    exact slots.queued id pending
  · simp only [occupied, close_sessions]
    by_cases same : other = index
    · simp [same]
    · simpa [same, occupied] using slots.opened other
  · simp only [Settled, close_sessions] at settled ⊢
    by_cases same : other = index
    · subst same
      simp [valid] at settled
    · simp only [same, if_false] at settled ⊢
      exact slots.placed other settled

theorem processAccept (slots : Slots env bound server) (clientSocket : Socket)
    (outcome : Bool) :
    Slots env
      (match server.availableIndices with
        | [] => bound
        | index :: _ => Function.update bound index outcome)
      (server.processAccept env clientSocket outcome) := by
  cases available : server.availableIndices with
  | nil =>
    refine processAccept_invariant (handled env bound) (fun _ => ?_) (fun index rest other => ?_)
      (fun index rest other => ?_)
    · exact slots.keep (fun _ => rfl) (fun _ => rfl) (fun _ => rfl) rfl rfl
    · cases available.symm.trans other
    · cases available.symm.trans other
  | cons index rest =>
    have prepared := slots.taken available clientSocket
    have valid : ((server.takeSlot clientSocket index rest).sessions index).valid = true := by
      simp only [takeSlot, modify_same]
      rfl
    refine processAccept_invariant (handled env (Function.update bound index true)) (fun none => ?_)
      (fun other more front welcomed => ?_) (fun other more front failed => ?_)
    · cases available.symm.trans none
    · cases available.symm.trans front
      subst welcomed
      refine ⟨⟨prepared, fun _ => ?_⟩, fun next held => held.1⟩
      simp only [takeSlot, modify_same]
      rfl
    · cases available.symm.trans front
      subst failed
      exact (prepared.returned valid).keep (fun _ => rfl) (fun _ => rfl) (fun _ => rfl) rfl rfl

end Slots

end Server

/-- A run of the server, with what is not in the source: for each slot, whether BindIOCP succeeded
when it was last taken. -/
structure Ledger where
  server : Server
  bound : Index → Bool

namespace Ledger

open Server

variable {env : Environment}

def start (env : Environment) : Ledger :=
  { server := .start env
    bound := fun _ => false }

def step (env : Environment) (ledger : Ledger) (action : Action) : Option Ledger := do
  let server ← ledger.server.step env action
  pure
    { server := server
      bound :=
        match action with
        | .accept bound =>
            match (ledger.server.released env).availableIndices with
            | [] => ledger.bound
            | index :: _ => Function.update ledger.bound index bound
        | _ => ledger.bound }

def Partitioned (env : Environment) (ledger : Ledger) : Prop :=
  ∀ index, index.toNat < env.maxClients → places ledger.bound ledger.server index = 1

-- The game layer names the sessions that it was told of.
def Announced (ledger : Ledger) : Action → Prop
  | .requestSendMsg sessionId _ _ | .requestDisconnectSession sessionId =>
      ⟨.connected, sessionId, []⟩ ∈ ledger.server.eventQueue
  | _ => True

/-- A completion or a request is for a settled slot. -/
def OnSettled (env : Environment) (ledger : Ledger) (action : Action) : Prop :=
  ledger.server.Touches env Settled action

instance (ledger : Ledger) (action : Action) : Decidable (ledger.Announced action) :=
  match action with
  | .requestSendMsg sessionId _ _ | .requestDisconnectSession sessionId =>
      inferInstanceAs (Decidable (⟨.connected, sessionId, []⟩ ∈ ledger.server.eventQueue))
  | .accept _ | .acceptFailed | .receive _ _ | .transmit _ _ | .fail _ | .worker _ =>
      inferInstanceAs (Decidable True)

instance (ledger : Ledger) (action : Action) : Decidable (ledger.OnSettled env action) :=
  inferInstanceAs (Decidable (ledger.server.Touches env Settled action))

theorem step_slots {ledger next : Ledger} {action : Action}
    (slots : Slots env ledger.bound ledger.server) (settled : ledger.OnSettled env action)
    (taken : ledger.step env action = some next) : Slots env next.bound next.server := by
  obtain ⟨server, served, same⟩ := Option.bind_eq_some_iff.mp taken
  cases same
  have stepped (quiet : ∀ bound, action ≠ .accept bound) : Slots env ledger.bound server :=
    (Slots.handled env ledger.bound).step Slots.alike Slots.releaseSession
      (fun bound same => absurd same (quiet bound)) settled slots served
  cases action with
  | accept bound =>
    cases served
    exact slots.released.processAccept _ bound
  | _ => exact stepped nofun

theorem start_slots (few : env.maxClients ≤ 65535) :
    Slots env (start env).bound (start env).server where
  counted index := by
    rw [← freshIndices_count few index]
    simp [Server.places, occupied, start, Server.start, Server.waiting, freshIndices]
  free _ _ := rfl
  queued _ member := absurd member List.not_mem_nil
  opened _ := by simp [occupied, start, Server.start, CSession.new]; rfl
  placed index settled := by cases settled rfl

theorem reachable_slots (few : env.maxClients ≤ 65535) {ledger : Ledger}
    (reached : Reachable (step env) (OnSettled env) (start env) ledger) :
    Slots env ledger.bound ledger.server := by
  induction reached with
  | start => exact start_slots few
  | step _ settled taken ih => exact step_slots ih settled taken

/-- In a run whose completions and requests are all for settled slots, no index is lost or doubled. -/
theorem slots_partitioned (few : env.maxClients ≤ 65535) {ledger : Ledger}
    (reached : Reachable (step env) (OnSettled env) (start env) ledger) :
    ledger.Partitioned env := by
  intro index inside
  have counted := (reachable_slots few reached).counted index
  rwa [if_pos inside] at counted

-- The first client's cancelled receive is handled after BindIOCP has failed for the second one.
theorem slots_doubled :
    ¬ ∀ ledger : Ledger, Reachable (step oneSlot) Announced (start oneSlot) ledger →
      ledger.Partitioned oneSlot := by
  intro always
  obtain ⟨ledger, reached, seen⟩ := Reachable.observe (restrict (step oneSlot) Announced)
    (start oneSlot)
    [.accept true, .requestDisconnectSession 1, .accept false, .worker 0]
    (fun ledger => places ledger.bound ledger.server 0 = 2) (by decide +kernel)
  have once := always ledger reached.unrestrict 0 (by decide)
  rw [of_decide_eq_true seen] at once
  exact absurd once (by decide)

theorem slots_partitioned_failed_bind :
    ∃ ledger : Ledger, ledger.bound 0 = false ∧ (ledger.server.sessions 0).sessionId = 2 ∧
      ledger.Partitioned oneSlot := by
  obtain ⟨ledger, reached, seen⟩ := Reachable.observe (restrict (step oneSlot) (OnSettled oneSlot))
    (start oneSlot)
    [.accept true, .requestDisconnectSession 1, .worker 0, .accept false, .acceptFailed]
    (fun ledger => ledger.bound 0 = false ∧ (ledger.server.sessions 0).sessionId = 2)
    (by decide +kernel)
  obtain ⟨unbound, second⟩ := of_decide_eq_true seen
  exact ⟨ledger, unbound, second, slots_partitioned (by decide) reached.unrestrict⟩

end Ledger

end MiniGames
