import MiniGames.Network.RingBuffer

set_option autoImplicit false

namespace MiniGames.CRingBufferT

open Circular

structure Sound (ring : CRingBufferT) : Prop where
  positive : 0 < ring.capacity
  fits : ring.capacity < 2 ^ 63
  readInside : ring.readPos < ring.capacity
  writeInside : ring.writePos < ring.capacity
  unallocated : ring.buffer = none → ring.readPos = ring.writePos

theorem new_sound {capacity : Nat} (allocated : Option (Nat → UInt8)) (positive : 0 < capacity)
    (fits : capacity < 2 ^ 63) : (new capacity allocated).Sound :=
  ⟨positive, fits, positive, positive, fun _ => rfl⟩

@[simp] theorem new_contents (capacity : Nat) (allocated : Option (Nat → UInt8)) :
    (new capacity allocated).contents = [] := by
  simp [new, contents, getDataSize, sizeSub]

@[simp] theorem contents_length (ring : CRingBufferT) :
    ring.contents.length = ring.getDataSize := by
  simp [contents]

variable {ring : CRingBufferT}

@[simp] theorem clear_capacity (ring : CRingBufferT) : ring.clear.capacity = ring.capacity := by
  simp only [clear]
  split <;> rfl

@[simp] theorem clear_buffer (ring : CRingBufferT) : ring.clear.buffer = ring.buffer := by
  simp only [clear]
  split <;> rfl

theorem enqueue_null_buffer (data : Option (List UInt8)) (size : Nat) (missing : ring.buffer = none) :
    ring.enqueue data size = (ring, ⟨0, []⟩) := by
  simp [enqueue, missing]

theorem enqueue_refused (data : Option (List UInt8)) (size : Nat)
    (refused : data = none ∨ size = 0 ∨ ring.getFreeSize < size) :
    ring.enqueue data size = (ring, ⟨0, []⟩) := by
  unfold enqueue
  rcases refused with rfl | rfl | full
  · cases ring.buffer <;> rfl
  · cases ring.buffer <;> cases data <;> rfl
  · cases ring.buffer <;> cases data <;> simp [full]

theorem dequeue_refused (destination : Bool) (size : Nat)
    (refused : destination = false ∨ size = 0 ∨ ring.getDataSize < size) :
    ring.dequeue destination size = (ring, ⟨0, []⟩) := by
  unfold dequeue
  rcases refused with rfl | rfl | short
  · cases ring.buffer <;> rfl
  · cases ring.buffer <;> cases destination <;> rfl
  · cases ring.buffer <;> cases destination <;> simp [short]

theorem peek_eq_dequeue (destination : Bool) (size : Nat) :
    ring.peek destination size = (ring.dequeue destination size).2 := by
  unfold peek dequeue
  cases ring.buffer <;> cases destination <;> try rfl
  simp only
  split
  · rfl
  · split <;> rfl

theorem consume_null_buffer (size : Nat) (missing : ring.buffer = none) :
    ring.consume size = (ring, ⟨0, []⟩) := by
  simp [consume, missing]

theorem consume_refused (size : Nat) (refused : size = 0 ∨ ring.getDataSize < size) :
    ring.consume size = (ring, ⟨0, []⟩) := by
  unfold consume
  rcases refused with rfl | short
  · cases ring.buffer <;> rfl
  · cases ring.buffer <;> simp [short]

theorem moveWritePtr_refused (size : Nat) (refused : size = 0 ∨ ring.getFreeSize < size) :
    ring.moveWritePtr size = (ring, ⟨0, []⟩) := by
  unfold moveWritePtr
  rcases refused with rfl | full
  · cases ring.buffer <;> rfl
  · cases ring.buffer <;> simp [full]

-- The rings that the accepted calls leave behind.
def enqueued (ring : CRingBufferT) (bytes : List UInt8) : CRingBufferT :=
  { ring with
    buffer := some (store ring.memory ring.capacity ring.writePos bytes)
    writePos := wrap ring.capacity ring.writePos bytes.length }

def drained (ring : CRingBufferT) (size : Nat) : CRingBufferT :=
  { ring with readPos := wrap ring.capacity ring.readPos size }

section SoundRing

variable (sound : ring.Sound)

include sound

theorem Sound.dataSize_eq : ring.getDataSize =
    if ring.readPos ≤ ring.writePos then ring.writePos - ring.readPos
    else ring.capacity - ring.readPos + ring.writePos := by
  obtain ⟨positive, fits, readInside, writeInside, _⟩ := sound
  unfold getDataSize
  split
  · exact sizeSub_eq (by omega) (by omega)
  · rw [sizeSub_eq (by omega) (by omega), sizeAdd_eq (by omega)]

theorem Sound.dataSize_lt : ring.getDataSize < ring.capacity := by
  rw [sound.dataSize_eq]
  have := sound.readInside
  have := sound.writeInside
  split <;> omega

theorem Sound.freeSize_eq : ring.getFreeSize = ring.capacity - 1 - ring.getDataSize := by
  have := sound.dataSize_lt
  have := sound.fits
  unfold getFreeSize
  rw [sizeSub_eq (by omega) (by omega)]
  dsimp only
  split
  · omega
  · have inner := sizeSub_eq (Nat.le_of_lt sound.dataSize_lt) (by omega)
    rw [inner, sizeSub_eq (by omega) (by omega)]
    omega

theorem Sound.writePos_eq : ring.writePos = wrap ring.capacity ring.readPos ring.getDataSize := by
  rw [sound.dataSize_eq]
  have := sound.readInside
  have := sound.writeInside
  unfold wrap
  split <;> split <;> omega

theorem Sound.advance_eq {position size : Nat} (inside : position < ring.capacity)
    (bound : size ≤ ring.capacity) :
    sizeAdd position size % ring.capacity = wrap ring.capacity position size := by
  have := sound.fits
  rw [sizeAdd_eq (by omega), add_mod_eq_wrap inside bound]

theorem Sound.copySegments_eq {position size : Nat} (inside : position < ring.capacity)
    (bound : size ≤ ring.capacity) :
    ring.copySegments position size = split ring.capacity position size := by
  have := sound.fits
  unfold copySegments split
  simp only [sizeSub_eq (show position ≤ ring.capacity by omega) (show ring.capacity < 2 ^ 64 by omega)]
  by_cases direct : size ≤ ring.capacity - position
  · simp [direct]
  · have first : min size (ring.capacity - position) = ring.capacity - position := by omega
    have remains : size > ring.capacity - position := by omega
    simp only [first, remains, direct, if_true, if_false]
    rw [sizeSub_eq (by omega) (by omega)]

theorem Sound.unallocated_contents (missing : ring.buffer = none) : ring.contents = [] := by
  rw [← List.length_eq_zero_iff, contents_length, sound.dataSize_eq, sound.unallocated missing]
  simp

theorem Sound.advanceRead {size : Nat} (bound : size ≤ ring.getDataSize)
    (allocated : ring.buffer.isSome) :
    Sound { ring with readPos := wrap ring.capacity ring.readPos size } ∧
      getDataSize { ring with readPos := wrap ring.capacity ring.readPos size } =
        ring.getDataSize - size ∧
      contents { ring with readPos := wrap ring.capacity ring.readPos size } =
        ring.contents.drop size := by
  have small := sound.dataSize_lt
  have kept : Sound { ring with readPos := wrap ring.capacity ring.readPos size } :=
    { positive := sound.positive
      fits := sound.fits
      readInside := wrap_lt sound.readInside (by omega)
      writeInside := sound.writeInside
      unallocated := fun missing => by
        have absent : ring.buffer = none := missing
        simp [absent] at allocated }
  have shrunk : getDataSize { ring with readPos := wrap ring.capacity ring.readPos size } =
      ring.getDataSize - size := by
    have := sound.readInside
    have := sound.writeInside
    rw [sound.dataSize_eq] at *
    rw [kept.dataSize_eq]
    simp only [wrap]
    grind
  refine ⟨kept, shrunk, ?_⟩
  rw [contents, contents, shrunk, window_drop _ sound.readInside (by omega) bound]
  rfl

theorem Sound.advanceWrite {size : Nat} (memory : Nat → UInt8) (bound : size ≤ ring.getFreeSize)
    (same : ∀ k < ring.getDataSize, memory (wrap ring.capacity ring.readPos k) =
      ring.memory (wrap ring.capacity ring.readPos k)) :
    Sound { ring with
        buffer := some memory
        writePos := wrap ring.capacity ring.writePos size } ∧
      getDataSize { ring with
        buffer := some memory
        writePos := wrap ring.capacity ring.writePos size } = ring.getDataSize + size ∧
      contents { ring with
        buffer := some memory
        writePos := wrap ring.capacity ring.writePos size } =
          ring.contents ++ window memory ring.capacity ring.writePos size := by
  have small := sound.dataSize_lt
  rw [sound.freeSize_eq] at bound
  have kept : Sound { ring with
      buffer := some memory
      writePos := wrap ring.capacity ring.writePos size } :=
    { positive := sound.positive
      fits := sound.fits
      readInside := sound.readInside
      writeInside := wrap_lt sound.writeInside (by omega)
      unallocated := fun missing => by simp at missing }
  have grown : getDataSize { ring with
      buffer := some memory
      writePos := wrap ring.capacity ring.writePos size } = ring.getDataSize + size := by
    have := sound.readInside
    have := sound.writeInside
    rw [sound.dataSize_eq] at *
    rw [kept.dataSize_eq]
    simp only [wrap]
    grind
  refine ⟨kept, grown, ?_⟩
  rw [contents, contents, grown, window_append _ _ _ sound.readInside (by omega),
    ← sound.writePos_eq]
  congr 1
  exact window_congr same

theorem Sound.split_free {size : Nat} (room : size ≤ ring.getFreeSize) {segment : Segment}
    (member : segment ∈ split ring.capacity ring.writePos size) {cell : Nat}
    (covers : segment.covers cell) : ¬ ring.Stored cell := by
  have small := sound.dataSize_lt
  rw [sound.freeSize_eq] at room
  obtain ⟨k, within, landed⟩ :=
    (split_covers sound.writeInside (by omega) cell).mp ⟨segment, member, covers⟩
  rintro ⟨j, stored, same⟩
  rw [sound.writePos_eq, wrap_add sound.readInside (by omega), ← same] at landed
  have := wrap_injective (by omega) (by omega) landed
  omega

theorem Sound.enqueue_accepted {bytes : List UInt8} {size : Nat} (readable : size ≤ bytes.length)
    (allocated : ring.buffer.isSome) (positive : 0 < size) (room : size ≤ ring.getFreeSize) :
    ring.enqueue (some bytes) size = (ring.enqueued (bytes.take size), ⟨size, []⟩) := by
  obtain ⟨memory, present⟩ := Option.isSome_iff_exists.mp allocated
  have bound : size ≤ ring.capacity := by rw [sound.freeSize_eq] at room; omega
  have length : (bytes.take size).length = size := by simp [readable]
  simp only [enqueue, enqueued, present, Nat.ne_of_gt positive, Nat.not_lt.mpr room, if_false,
    sound.copySegments_eq sound.writeInside bound, sound.advance_eq sound.writeInside bound,
    scatter_split memory _ sound.writeInside bound (Nat.le_of_eq length), length,
    CRingBufferT.memory, Option.getD_some]

theorem Sound.enqueued_spec {bytes : List UInt8} (room : bytes.length ≤ ring.getFreeSize) :
    (ring.enqueued bytes).Sound ∧
      (ring.enqueued bytes).getDataSize = ring.getDataSize + bytes.length ∧
      (ring.enqueued bytes).contents = ring.contents ++ bytes := by
  have small := sound.dataSize_lt
  have bound := room
  rw [sound.freeSize_eq] at bound
  obtain ⟨kept, grown, stored⟩ := sound.advanceWrite
    (store ring.memory ring.capacity ring.writePos bytes) room (by
      intro k within
      apply store_outside _ _ _ sound.writeInside
      intro j written same
      rw [sound.writePos_eq, wrap_add sound.readInside (by omega)] at same
      have := wrap_injective (by omega) (by omega) same
      omega)
  refine ⟨kept, grown, stored.trans ?_⟩
  rw [window_store _ _ sound.writeInside (by omega)]

theorem Sound.drained_spec {size : Nat} (allocated : ring.buffer.isSome)
    (bound : size ≤ ring.getDataSize) :
    (ring.drained size).Sound ∧ (ring.drained size).getDataSize = ring.getDataSize - size ∧
      (ring.drained size).contents = ring.contents.drop size :=
  sound.advanceRead bound allocated

theorem Sound.copied_eq {size : Nat} (bound : size ≤ ring.getDataSize) :
    gather ring.memory (ring.copySegments ring.readPos size) = ring.contents.take size := by
  have := sound.dataSize_lt
  rw [sound.copySegments_eq sound.readInside (by omega),
    gather_split _ sound.readInside (by omega), contents, window_take _ _ _ bound]

theorem Sound.dequeue_accepted {size : Nat} (allocated : ring.buffer.isSome) (positive : 0 < size)
    (enough : size ≤ ring.getDataSize) :
    ring.dequeue true size = (ring.drained size, ⟨size, ring.contents.take size⟩) := by
  obtain ⟨memory, present⟩ := Option.isSome_iff_exists.mp allocated
  have small := sound.dataSize_lt
  have copied := sound.copied_eq enough
  simp only [CRingBufferT.memory, present, Option.getD_some] at copied
  simp only [dequeue, drained, present, Nat.ne_of_gt positive, Nat.not_lt.mpr enough, if_false,
    sound.advance_eq sound.readInside (show size ≤ ring.capacity by omega), copied]

theorem Sound.consume_accepted {size : Nat} (allocated : ring.buffer.isSome) (positive : 0 < size)
    (enough : size ≤ ring.getDataSize) :
    ring.consume size = (ring.drained size, ⟨size, []⟩) := by
  obtain ⟨memory, present⟩ := Option.isSome_iff_exists.mp allocated
  have small := sound.dataSize_lt
  simp only [consume, drained, present, Nat.ne_of_gt positive, Nat.not_lt.mpr enough, if_false,
    sound.advance_eq sound.readInside (show size ≤ ring.capacity by omega)]

theorem Sound.moveWritePtr_accepted {size : Nat} (allocated : ring.buffer.isSome)
    (positive : 0 < size) (room : size ≤ ring.getFreeSize) :
    ring.moveWritePtr size =
      ({ ring with
          buffer := some ring.memory
          writePos := wrap ring.capacity ring.writePos size }, ⟨size, []⟩) := by
  obtain ⟨memory, present⟩ := Option.isSome_iff_exists.mp allocated
  have bound : size ≤ ring.capacity := by rw [sound.freeSize_eq] at room; omega
  simp only [moveWritePtr, CRingBufferT.memory, present, Nat.ne_of_gt positive,
    Nat.not_lt.mpr room, if_false, sound.advance_eq sound.writeInside bound, Option.getD_some]

theorem Sound.clear_spec : ring.clear.Sound ∧ ring.clear.contents = [] := by
  unfold clear
  cases present : ring.buffer with
  | none => exact ⟨sound, sound.unallocated_contents present⟩
  | some memory =>
    have cleared : Sound { ring with readPos := 0, writePos := 0 } :=
      ⟨sound.positive, sound.fits, sound.positive, sound.positive, fun _ => rfl⟩
    refine ⟨by simpa [present] using cleared, ?_⟩
    simp [contents, getDataSize, sizeSub]

end SoundRing

structure Kept (ring next : CRingBufferT) : Prop where
  sound : ring.Sound → next.Sound
  capacity : next.capacity = ring.capacity
  allocated : next.buffer.isSome = ring.buffer.isSome

theorem Kept.refl (ring : CRingBufferT) : Kept ring ring := ⟨id, rfl, rfl⟩

theorem Kept.trans {first second third : CRingBufferT} (kept : Kept first second)
    (again : Kept second third) : Kept first third :=
  ⟨again.sound ∘ kept.sound, again.capacity.trans kept.capacity,
    again.allocated.trans kept.allocated⟩

theorem movedRead_kept {memory : Nat → UInt8} (present : ring.buffer = some memory)
    (readPos : Nat) : Kept ring { ring with readPos := readPos % ring.capacity } where
  sound sound := ⟨sound.positive, sound.fits, Nat.mod_lt _ sound.positive, sound.writeInside, by
    simp [present]⟩
  capacity := rfl
  allocated := rfl

theorem movedWrite_kept {before : Nat → UInt8} (present : ring.buffer = some before)
    (memory : Nat → UInt8) (writePos : Nat) :
    Kept ring { ring with buffer := some memory, writePos := writePos % ring.capacity } where
  sound sound := ⟨sound.positive, sound.fits, sound.readInside, Nat.mod_lt _ sound.positive, by simp⟩
  capacity := rfl
  allocated := by simp [present]

theorem enqueue_kept (ring : CRingBufferT) (data : Option (List UInt8)) (size : Nat) :
    Kept ring (ring.enqueue data size).1 := by
  simp only [enqueue]
  split
  · next memory bytes present =>
    split
    · exact .refl ring
    · split
      · exact .refl ring
      · exact movedWrite_kept present _ _
  · exact .refl ring

theorem dequeue_kept (ring : CRingBufferT) (destination : Bool) (size : Nat) :
    Kept ring (ring.dequeue destination size).1 := by
  simp only [dequeue]
  split
  · next memory present =>
    split
    · exact .refl ring
    · split
      · exact .refl ring
      · exact movedRead_kept present _
  · exact .refl ring

theorem consume_kept (ring : CRingBufferT) (size : Nat) : Kept ring (ring.consume size).1 := by
  simp only [consume]
  split
  · next memory present =>
    split
    · exact .refl ring
    · split
      · exact .refl ring
      · exact movedRead_kept present _
  · exact .refl ring

theorem moveWritePtr_kept (ring : CRingBufferT) (size : Nat) :
    Kept ring (ring.moveWritePtr size).1 := by
  simp only [moveWritePtr]
  split
  · next memory present =>
    split
    · exact .refl ring
    · split
      · exact .refl ring
      · simpa only [← present] using movedWrite_kept present memory _
  · exact .refl ring

theorem clear_kept (ring : CRingBufferT) : Kept ring ring.clear where
  sound sound := sound.clear_spec.1
  capacity := clear_capacity ring
  allocated := by rw [clear_buffer]

theorem call_kept (ring : CRingBufferT) (next : Call) : Kept ring (ring.call next).1 := by
  cases next with
  | enqueue data size => exact enqueue_kept ring data size
  | dequeue destination size => exact dequeue_kept ring destination size
  | peek destination size => exact .refl ring
  | consume size => exact consume_kept ring size
  | clear => exact clear_kept ring

end MiniGames.CRingBufferT
