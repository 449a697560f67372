import MiniGames.Network.ZeroCopy

set_option autoImplicit false

namespace MiniGames

open Circular

-- A subtraction of two `size_t` that does not wrap.
def exactSub (a b : Nat) : Option Nat := if b ≤ a then some (a - b) else none

def wrappingSub (a b : Nat) : Id Nat := pure (sizeSub a b)

namespace CRingBufferT

section Subtractions

-- The size functions over any subtraction: the machine's, or one that must not wrap.
variable {m : Type → Type} [Monad m] (subtract : Nat → Nat → m Nat)

def dataSizeBy (ring : CRingBufferT) : m Nat :=
  if ring.writePos ≥ ring.readPos then subtract ring.writePos ring.readPos
  else do
    let behind ← subtract ring.capacity ring.readPos
    pure (sizeAdd behind ring.writePos)

def freeSizeBy (ring : CRingBufferT) : m Nat := do
  let dataSize ← ring.dataSizeBy subtract
  let usable ← subtract ring.capacity 1
  if dataSize ≥ usable then pure 0
  else do
    let rest ← subtract ring.capacity dataSize
    subtract rest 1

def directWriteSizeBy (ring : CRingBufferT) : m Nat :=
  if ring.writePos ≥ ring.readPos then
    if ring.readPos = 0 then do
      let rest ← subtract ring.capacity ring.writePos
      subtract rest 1
    else subtract ring.capacity ring.writePos
  else do
    let gap ← subtract ring.readPos ring.writePos
    subtract gap 1

def directReadSizeBy (ring : CRingBufferT) : m Nat :=
  if ring.writePos ≥ ring.readPos then subtract ring.writePos ring.readPos
  else subtract ring.capacity ring.readPos

end Subtractions

theorem dataSizeBy_wrapping (ring : CRingBufferT) :
    ring.dataSizeBy wrappingSub = pure ring.getDataSize := by
  simp only [dataSizeBy, getDataSize, wrappingSub, pure_bind]
  split
  · simp only
  · simp only

theorem freeSizeBy_wrapping (ring : CRingBufferT) :
    ring.freeSizeBy wrappingSub = pure ring.getFreeSize := by
  simp only [freeSizeBy, dataSizeBy_wrapping, getFreeSize, wrappingSub, pure_bind]
  split
  · simp only
  · simp only

theorem directWriteSizeBy_wrapping (ring : CRingBufferT) :
    ring.directWriteSizeBy wrappingSub = pure ring.getDirectWriteSize := by
  simp only [directWriteSizeBy, getDirectWriteSize, wrappingSub, pure_bind]
  split
  · split
    · simp only
    · simp only
  · simp only

theorem directReadSizeBy_wrapping (ring : CRingBufferT) :
    ring.directReadSizeBy wrappingSub = pure ring.getDirectReadSize := by
  simp only [directReadSizeBy, getDirectReadSize, wrappingSub]
  split
  · simp only
  · simp only

structure Sized (ring : CRingBufferT) : Prop where
  dataSize : ring.dataSizeBy exactSub = some ring.getDataSize
  freeSize : ring.freeSizeBy exactSub = some ring.getFreeSize
  directWriteSize : ring.directWriteSizeBy exactSub = some ring.getDirectWriteSize
  directReadSize : ring.directReadSizeBy exactSub = some ring.getDirectReadSize
  below : ring.getDataSize + ring.getFreeSize < max ring.capacity 1
  direct : ring.getDirectWriteSize ≤ ring.getFreeSize ∧
    ring.getDirectReadSize ≤ ring.getDataSize
  enqueue : ∀ (bytes : List UInt8) (size : Nat), size ≤ bytes.length → 0 < size →
    ((ring.enqueue (some bytes) size).2.returned = size ↔ size ≤ ring.getFreeSize)

theorem exactSub_eq {a b : Nat} (order : b ≤ a) : exactSub a b = some (a - b) := if_pos order

section SoundRing

variable {ring : CRingBufferT} (sound : ring.Sound)

include sound

theorem Sound.dataSize_exact : ring.dataSizeBy exactSub = some ring.getDataSize := by
  have data := sound.dataSize_eq
  obtain ⟨positive, fits, readInside, writeInside, _⟩ := id sound
  simp only [dataSizeBy]
  split
  · next ahead =>
    rw [exactSub_eq ahead, data, if_pos ahead]
  · next behind =>
    rw [exactSub_eq (Nat.le_of_lt readInside), data, if_neg behind]
    exact congrArg some (sizeAdd_eq (by omega))

theorem Sound.freeSize_exact : ring.freeSizeBy exactSub = some ring.getFreeSize := by
  have small := sound.dataSize_lt
  have positive := sound.positive
  simp only [freeSizeBy, sound.dataSize_exact, exactSub_eq (show 1 ≤ ring.capacity from positive),
    Option.bind_eq_bind, Option.bind_some, sound.freeSize_eq]
  split
  · exact congrArg some (by omega)
  · rw [exactSub_eq (Nat.le_of_lt small), Option.bind_some, exactSub_eq (by omega)]
    exact congrArg some (by omega)

theorem Sound.directWriteSize_exact :
    ring.directWriteSizeBy exactSub = some ring.getDirectWriteSize := by
  obtain ⟨positive, fits, readInside, writeInside, _⟩ := id sound
  have rest := sizeSub_eq (Nat.le_of_lt writeInside) (by omega : ring.capacity < 2 ^ 64)
  simp only [directWriteSizeBy, getDirectWriteSize, exactSub_eq (Nat.le_of_lt writeInside), rest,
    Option.bind_eq_bind, Option.bind_some]
  split
  · split
    · rw [exactSub_eq (by omega), sizeSub_eq (by omega) (by omega)]
    · rfl
  · next behind =>
    have gap := sizeSub_eq (show ring.writePos ≤ ring.readPos by omega) (by omega)
    rw [exactSub_eq (by omega), Option.bind_some, exactSub_eq (by omega), gap,
      sizeSub_eq (by omega) (by omega)]

theorem Sound.directReadSize_exact :
    ring.directReadSizeBy exactSub = some ring.getDirectReadSize := by
  obtain ⟨positive, fits, readInside, writeInside, _⟩ := id sound
  simp only [directReadSizeBy, getDirectReadSize]
  split
  · next ahead => rw [exactSub_eq ahead, sizeSub_eq ahead (by omega)]
  · rw [exactSub_eq (Nat.le_of_lt readInside), sizeSub_eq (by omega) (by omega)]

theorem Sound.enqueue_returned (allocated : ring.buffer.isSome) {bytes : List UInt8} {size : Nat}
    (readable : size ≤ bytes.length) (positive : 0 < size) :
    (ring.enqueue (some bytes) size).2.returned = size ↔ size ≤ ring.getFreeSize := by
  constructor
  · intro accepted
    by_contra full
    rw [enqueue_refused (some bytes) size (.inr (.inr (Nat.lt_of_not_le full)))] at accepted
    exact absurd accepted (Nat.ne_of_lt positive)
  · intro room
    rw [sound.enqueue_accepted readable allocated positive room]

theorem Sound.sized_iff : Sized ring ↔ ring.buffer.isSome = true ∨ ring.capacity = 1 := by
  have small := sound.dataSize_lt
  have free := sound.freeSize_eq
  constructor
  · intro sized
    by_contra broken
    simp only [not_or, Bool.not_eq_true, Option.isSome_eq_false_iff, Option.isNone_iff_eq_none]
      at broken
    have positive := sound.positive
    have empty : ring.getDataSize = 0 := by
      rw [← contents_length, sound.unallocated_contents broken.1, List.length_nil]
    have accepts := (sized.enqueue [0] 1 (Nat.le_refl _) Nat.one_pos).mpr (by omega)
    rw [enqueue_null_buffer _ _ broken.1] at accepts
    exact Nat.zero_ne_one accepts
  · intro usable
    refine ⟨sound.dataSize_exact, sound.freeSize_exact, sound.directWriteSize_exact,
      sound.directReadSize_exact, by omega, ?_, fun bytes size readable positive => ?_⟩
    · rw [Server.directWriteSize_eq sound, sound.directReadSize_eq]
      omega
    · cases missing : ring.buffer with
      | some memory => exact sound.enqueue_returned (by simp [missing]) readable positive
      | none =>
        rw [missing] at usable
        rw [enqueue_null_buffer _ _ missing]
        have one : ring.capacity = 1 := usable.resolve_left (by simp)
        simp only
        omega

end SoundRing

theorem operate_null_buffer {ring : CRingBufferT} (missing : ring.buffer = none)
    (operation : Operation) : ring.operate operation = ring := by
  cases operation with
  | call next =>
    cases next <;> simp [operate, call, enqueue, dequeue, consume, clear, missing]
  | fill segments bytes =>
    cases ring
    simp only at missing
    simp [operate, Server.fill, missing]
  | moveWritePtr size => simp [operate, moveWritePtr, missing]

/-- The sizes are sound if and only if the ring has at least one byte and, unless it has no more
than one, its buffer. -/
theorem sizes_sound_iff {capacity : Nat} (fits : capacity < 2 ^ 63)
    (allocated : Option (Nat → UInt8)) (operations : List Operation) :
    Sized (operations.foldl operate (new capacity allocated)) ↔
      0 < capacity ∧ (allocated.isSome = true ∨ capacity = 1) := by
  rcases Nat.eq_zero_or_pos capacity with rfl | positive
  · have same : operations.foldl operate (new 0 allocated) = new 0 allocated :=
      List.foldlRecOn (motive := fun ring : CRingBufferT => ring = new 0 allocated) _ _ rfl
        fun ring same operation _ => by
          rw [same]
          exact operate_null_buffer rfl operation
    rw [same]
    apply iff_of_false
    · intro sized
      have free := sized.freeSize
      simp [freeSizeBy, dataSizeBy, new, exactSub] at free
    · rintro ⟨positive, _⟩
      exact absurd positive (Nat.lt_irrefl 0)
  · have kept := operations_kept (new capacity allocated) operations
    have sound := kept.sound (new_sound allocated positive fits)
    have buffer : (new capacity allocated).buffer = allocated := if_neg (Nat.ne_of_gt positive)
    rw [sound.sized_iff, kept.allocated, kept.capacity, buffer]
    simp only [positive, true_and]
    rfl

-- A ring whose allocation failed tells the receive path of 65535 free bytes at a null pointer.
theorem sizes_unsound_unallocated :
    ¬ ∀ (capacity : Nat) (allocated : Option (Nat → UInt8)) (operations : List Operation),
      capacity < 2 ^ 63 → Sized (operations.foldl operate (new capacity allocated)) := by
  intro always
  have sized := always 65536 none [] (by decide)
  have accepts := (sized.enqueue [0] 1 (Nat.le_refl _) Nat.one_pos).mpr (by decide)
  exact absurd accepts (by decide)

-- The stored bytes run over the end of the buffer.
theorem sizes_sound_allocated : ∃ ring : CRingBufferT,
    ring.writePos < ring.readPos ∧ ring.getDataSize = 3 ∧ Sized ring := by
  let operations : List Operation :=
    [.call (.enqueue (some [1, 2, 3]) 3 (by simp)), .call (.dequeue true 2),
      .call (.enqueue (some [4, 5]) 2 (by simp))]
  exact ⟨operations.foldl operate (new 4 (some fun _ => 0)), by decide, by decide,
    (sizes_sound_iff (by decide) (some fun _ => 0) operations).mpr (by decide)⟩

end CRingBufferT

end MiniGames
