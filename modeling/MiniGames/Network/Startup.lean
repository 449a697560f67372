import MiniGames.Network.Lifetime
import MiniGames.Shared.CountedLoop

set_option autoImplicit false

namespace MiniGames

open CountedLoop

-- A null `unique_ptr<CSession>` is `none`.
structure SlotTable where
  sessions : List (Option CSession)
  availableIndices : List Index

namespace SlotTable

def resize (table : SlotTable) (count : Nat) : SlotTable :=
  { table with
    sessions := table.sessions.take count ++ .replicate (count - table.sessions.length) none }

-- The bodies of the loops, whose counter is a `uint16_t` and whose bound is an `int`.
def createSession (env : Environment) (table : SlotTable) (index : Index) : SlotTable :=
  { table with
    sessions := table.sessions.set index.toNat
      (some (.new (env.recvMemory index) (env.sendMemory index))) }

def pushIndex (table : SlotTable) (index : Index) : SlotTable :=
  { table with availableIndices := table.availableIndices ++ [index] }

def Started (env : Environment) (maxClients : Int32) (table final : SlotTable) : Prop :=
  ∃ created,
    Ends maxClients.toInt (createSession env) (table.resize maxClients.toNatClampNeg) created ∧
    Ends maxClients.toInt pushIndex created final

def Refilled (maxClients : Int32) (table final : SlotTable) : Prop :=
  Ends maxClients.toInt pushIndex { table with availableIndices := [] } final

structure Fills (maxClients : Int32) (pushed : List Index) : Prop where
  numbers : pushed.map BitVec.toNat = List.range maxClients.toNatClampNeg
  packed : ∀ index ∈ pushed, ∀ uniqueId, extractIndex (makeSessionId index uniqueId) = index

structure Initialised (env : Environment) (maxClients : Int32) (table : SlotTable) : Prop where
  start : ∃ final pushed, Started env maxClients table final ∧
    final.sessions.length = maxClients.toNatClampNeg ∧
    (∀ session ∈ final.sessions, session.isSome = true) ∧
    final.availableIndices = table.availableIndices ++ pushed ∧ Fills maxClients pushed
  disconnect : ∃ final, Refilled maxClients table final ∧ Fills maxClients final.availableIndices

variable {env : Environment} {table : SlotTable}

theorem foldl_pushIndex (indices : List Index) (table : SlotTable) :
    indices.foldl pushIndex table =
      { table with availableIndices := table.availableIndices ++ indices } := by
  induction indices generalizing table with
  | nil => simp
  | cons index rest ih => simp [ih, pushIndex]

theorem foldl_createSession_indices (indices : List Index) (table : SlotTable) :
    (indices.foldl (createSession env) table).availableIndices = table.availableIndices := by
  induction indices generalizing table with
  | nil => rfl
  | cons index rest ih => exact ih _

theorem foldl_createSession (indices : List Index) (table : SlotTable) {number : Nat}
    (small : number < 2 ^ 16) :
    (indices.foldl (createSession env) table).sessions[number]? =
      if BitVec.ofNat 16 number ∈ indices then
        table.sessions[number]?.map fun _ =>
          some ((Server.start env).sessions (BitVec.ofNat 16 number))
      else table.sessions[number]? := by
  induction indices generalizing table with
  | nil => simp
  | cons index rest ih =>
    rw [List.foldl_cons, ih]
    by_cases here : index = BitVec.ofNat 16 number
    · subst here
      have position : (BitVec.ofNat 16 number).toNat = number := by
        rw [BitVec.toNat_ofNat, Nat.mod_eq_of_lt small]
      simp only [createSession, position, List.mem_cons, true_or, if_true]
      by_cases inside : number < table.sessions.length
      · simp [inside, Server.start]
      · simp [Nat.not_lt.mp inside]
    · have elsewhere : index.toNat ≠ number := by
        rintro rfl
        exact here (by simp)
      have later : BitVec.ofNat 16 number ∈ index :: rest ↔ BitVec.ofNat 16 number ∈ rest := by
        simp [Ne.symm here]
      simp only [createSession, List.getElem?_set_ne elsewhere, later]

theorem created_sessions {count : Nat} (few : count ≤ 65535)
    (sized : table.sessions.length = count) :
    ((counters 16 count).foldl (createSession env) table).sessions =
      (counters 16 count).map fun index => some ((Server.start env).sessions index) := by
  apply List.ext_getElem?
  intro number
  by_cases inside : number < count
  · have listed : BitVec.ofNat 16 number ∈ counters 16 count :=
      List.mem_map_of_mem (List.mem_range.mpr inside)
    have there : number < table.sessions.length := sized ▸ inside
    rw [foldl_createSession _ _ (by omega), if_pos listed]
    simp [counters, inside, there]
  · have length : ((counters 16 count).foldl (createSession env) table).sessions.length = count := by
      rw [← sized]
      exact List.foldlRecOn (motive := fun next : SlotTable =>
        next.sessions.length = table.sessions.length) _ _ rfl
        fun next same index _ => by simpa [createSession] using same
    have outside : count ≤ number := Nat.not_lt.mp inside
    rw [List.getElem?_eq_none (by omega)]
    simp [counters, outside]

theorem resize_length (table : SlotTable) (count : Nat) :
    (table.resize count).sessions.length = count := by
  simp only [resize, List.length_append, List.length_take, List.length_replicate]
  omega

theorem counters_fill {maxClients : Int32} (few : maxClients.toNatClampNeg ≤ 65535) :
    Fills maxClients (counters 16 maxClients.toNatClampNeg) :=
  ⟨counters_toNat (Nat.le_succ_of_le few),
    fun index _ uniqueId => extractIndex_makeSessionId index uniqueId⟩

theorem lt_iff_le {maxClients : Int32} : maxClients.toInt < 2 ^ 16 ↔ maxClients ≤ 65535 := by
  have limit : (65535 : Int32).toInt = 65535 := by decide
  rw [Int32.le_iff_toInt_le, limit]
  omega

theorem ends_counted {State : Type} {maxClients : Int32} (few : maxClients ≤ 65535)
    (body : State → Index → State) (state : State) : Ends maxClients.toInt body state
      ((counters 16 maxClients.toNatClampNeg).foldl body state) :=
  ends_iff.mpr ⟨lt_iff_le.mpr few, rfl⟩

/-- The loops end, and fill the slots, if and only if a `uint16_t` gets as far as maxClients. -/
theorem slots_initialised_iff {maxClients : Int32} (positive : 0 ≤ maxClients) (env : Environment)
    (table : SlotTable) : Initialised env maxClients table ↔ maxClients ≤ 65535 := by
  have value : (maxClients.toNatClampNeg : Int) = maxClients.toInt :=
    Int.toNat_of_nonneg (Int32.le_iff_toInt_le.mp positive)
  constructor
  · intro initialised
    obtain ⟨final, refilled, _⟩ := initialised.disconnect
    exact lt_iff_le.mp (ends_iff.mp refilled).1
  · intro fits
    have few : maxClients.toNatClampNeg ≤ 65535 := by
      have below := lt_iff_le.mpr fits
      omega
    have sessions : ((counters 16 maxClients.toNatClampNeg).foldl (createSession env)
        (table.resize maxClients.toNatClampNeg)).sessions = _ :=
      created_sessions few (table.resize_length maxClients.toNatClampNeg)
    constructor
    · refine ⟨_, counters 16 maxClients.toNatClampNeg,
        ⟨_, ends_counted fits _ _, ends_counted fits _ _⟩, ?_, ?_, ?_, counters_fill few⟩
      · rw [foldl_pushIndex, sessions]
        simp [counters]
      · rw [foldl_pushIndex, sessions]
        intro session member
        obtain ⟨index, _, rfl⟩ := List.mem_map.mp member
        rfl
      · rw [foldl_pushIndex, foldl_createSession_indices]
        rfl
    · refine ⟨_, ends_counted fits _ _, ?_⟩
      rw [foldl_pushIndex, List.nil_append]
      exact counters_fill few

-- 65536 slots, whose indices fit into 16 bits, are one more than the counter gets to.
theorem slots_never_initialised :
    ¬ ∀ (maxClients : Int32) (env : Environment) (table : SlotTable), 0 ≤ maxClients →
      Initialised env maxClients table := by
  intro always
  obtain ⟨final, refilled, _⟩ := (always 65536 Server.oneSlot ⟨[], []⟩ (by decide)).disconnect
  have fits := (ends_iff.mp refilled).1
  exact absurd fits (by decide)

theorem slots_initialised_thousand : Initialised Server.oneSlot 1000 ⟨[], []⟩ :=
  (slots_initialised_iff (by decide) Server.oneSlot ⟨[], []⟩).mpr (by decide)

end SlotTable

namespace Server

def pushAvailable (server : Server) (index : Index) : Server :=
  { server with availableIndices := server.availableIndices ++ [index] }

theorem foldl_pushAvailable (indices : List Index) (server : Server) :
    indices.foldl pushAvailable server =
      { server with availableIndices := server.availableIndices ++ indices } := by
  induction indices generalizing server with
  | nil => simp
  | cons index rest ih => simp [ih, pushAvailable]

-- The loops of Start make of the server what `prepare` makes of it.
theorem prepare_ends {env : Environment} (few : env.maxClients ≤ 65535) (server : Server) :
    ∃ created, CountedLoop.Ends env.maxClients (renewSession env) server created ∧
      CountedLoop.Ends env.maxClients pushAvailable created (server.prepare env) := by
  have fits : (env.maxClients : Int) < 2 ^ 16 := by omega
  refine ⟨_, ends_iff.mpr ⟨fits, rfl⟩, ends_iff.mpr ⟨fits, ?_⟩⟩
  rw [foldl_pushAvailable]
  rfl

end Server

end MiniGames
