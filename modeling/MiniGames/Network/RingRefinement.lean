import MiniGames.Network.RingSound
import MiniGames.Shared.BoundedQueue
import MiniGames.Shared.Runs

set_option autoImplicit false

namespace MiniGames.CRingBufferT

open Circular Runs

-- The queue of at most `limit` bytes that the ring stands for, with the ring's own calls.
def queueCall {limit : Nat} (queue : BoundedQueue UInt8 limit) :
    Call → BoundedQueue UInt8 limit × Reply
  | .enqueue none _ _ => (queue, ⟨0, []⟩)
  | .enqueue (some bytes) size _ =>
      match queue.append (bytes.take size) with
      | some longer => (longer, ⟨size, []⟩)
      | none => (queue, ⟨0, []⟩)
  | .dequeue destination size =>
      if destination = true ∧ size ≤ queue.items.length then
        (queue.drop size, ⟨size, queue.items.take size⟩)
      else (queue, ⟨0, []⟩)
  | .peek destination size =>
      if destination = true ∧ size ≤ queue.items.length then (queue, ⟨size, queue.items.take size⟩)
      else (queue, ⟨0, []⟩)
  | .consume size =>
      if size ≤ queue.items.length then (queue.drop size, ⟨size, []⟩) else (queue, ⟨0, []⟩)
  | .clear => (.empty, ⟨0, []⟩)

structure Represents {limit : Nat} (ring : CRingBufferT) (queue : BoundedQueue UInt8 limit) :
    Prop where
  sound : ring.Sound
  allocated : ring.buffer.isSome
  capacity : ring.capacity = limit + 1
  contents : ring.contents = queue.items

section Represented

variable {limit : Nat} {ring : CRingBufferT} {queue : BoundedQueue UInt8 limit}
  (represents : Represents ring queue)

include represents

theorem Represents.dataSize : ring.getDataSize = queue.items.length := by
  rw [← contents_length, represents.contents]

theorem Represents.freeSize : ring.getFreeSize = limit - queue.items.length := by
  rw [represents.sound.freeSize_eq, represents.dataSize, represents.capacity, Nat.add_sub_cancel]

theorem Represents.drained {size : Nat} (enough : size ≤ ring.getDataSize) :
    Represents (ring.drained size) (queue.drop size) := by
  obtain ⟨kept, _, left⟩ := represents.sound.drained_spec represents.allocated enough
  exact ⟨kept, represents.allocated, represents.capacity, by
    rw [left, represents.contents]; rfl⟩

theorem Represents.enqueue (data : Option (List UInt8)) (size : Nat)
    (readable : ∀ bytes, data = some bytes → size ≤ bytes.length) :
    Represents (ring.enqueue data size).1 (queueCall queue (.enqueue data size readable)).1 ∧
      (ring.enqueue data size).2 = (queueCall queue (.enqueue data size readable)).2 := by
  have bounded := queue.bounded
  cases data with
  | none =>
    rw [enqueue_refused none size (.inl rfl)]
    exact ⟨represents, rfl⟩
  | some bytes =>
    have length : (bytes.take size).length = size := by simp [readable bytes rfl]
    simp only [queueCall]
    by_cases room : size ≤ ring.getFreeSize
    · have fits := room
      rw [represents.freeSize] at fits
      have short : queue.items.length + (bytes.take size).length ≤ limit := by omega
      obtain ⟨longer, appended, items⟩ := BoundedQueue.append_fits short
      rw [appended]
      rcases Nat.eq_zero_or_pos size with rfl | positive
      · rw [enqueue_refused (some bytes) 0 (.inr (.inl rfl))]
        refine ⟨⟨represents.sound, represents.allocated, represents.capacity, ?_⟩, rfl⟩
        simp [items, represents.contents]
      · rw [represents.sound.enqueue_accepted (readable bytes rfl) represents.allocated positive room]
        have enough : (bytes.take size).length ≤ ring.getFreeSize := by omega
        obtain ⟨kept, _, stored⟩ := represents.sound.enqueued_spec enough
        exact ⟨⟨kept, rfl, represents.capacity, by rw [stored, items, represents.contents]⟩, rfl⟩
    · have full := room
      rw [represents.freeSize] at full
      rw [BoundedQueue.append_full (by omega),
        enqueue_refused (some bytes) size (.inr (.inr (by omega)))]
      exact ⟨represents, rfl⟩

theorem Represents.dequeue (destination : Bool) (size : Nat) :
    Represents (ring.dequeue destination size).1 (queueCall queue (.dequeue destination size)).1 ∧
      (ring.dequeue destination size).2 = (queueCall queue (.dequeue destination size)).2 := by
  simp only [queueCall, ← represents.dataSize]
  cases destination with
  | false =>
    rw [dequeue_refused false size (.inl rfl)]
    exact ⟨represents, rfl⟩
  | true =>
    by_cases enough : size ≤ ring.getDataSize
    · rcases Nat.eq_zero_or_pos size with rfl | positive
      · rw [dequeue_refused true 0 (.inr (.inl rfl))]
        exact ⟨⟨represents.sound, represents.allocated, represents.capacity, by
          simpa [BoundedQueue.drop] using represents.contents⟩, by simp⟩
      · rw [represents.sound.dequeue_accepted represents.allocated positive enough]
        simp only [enough, true_and, if_true]
        exact ⟨represents.drained enough, by rw [represents.contents]⟩
    · rw [dequeue_refused true size (.inr (.inr (Nat.lt_of_not_le enough)))]
      simp only [enough, and_false, if_false]
      exact ⟨represents, trivial⟩

theorem Represents.consume (size : Nat) :
    Represents (ring.consume size).1 (queueCall queue (.consume size)).1 ∧
      (ring.consume size).2 = (queueCall queue (.consume size)).2 := by
  simp only [queueCall, ← represents.dataSize]
  by_cases enough : size ≤ ring.getDataSize
  · rcases Nat.eq_zero_or_pos size with rfl | positive
    · rw [consume_refused 0 (.inl rfl)]
      exact ⟨⟨represents.sound, represents.allocated, represents.capacity, by
        simpa [BoundedQueue.drop] using represents.contents⟩, rfl⟩
    · rw [represents.sound.consume_accepted represents.allocated positive enough]
      simp only [enough, if_true]
      exact ⟨represents.drained enough, trivial⟩
  · rw [consume_refused size (.inr (Nat.lt_of_not_le enough))]
    simp only [enough, if_false]
    exact ⟨represents, trivial⟩

theorem Represents.call (next : Call) :
    Represents (ring.call next).1 (queueCall queue next).1 ∧
      (ring.call next).2 = (queueCall queue next).2 := by
  cases next with
  | enqueue data size readable => exact represents.enqueue data size readable
  | dequeue destination size => exact represents.dequeue destination size
  | peek destination size =>
    have answer := (represents.dequeue destination size).2
    simp only [queueCall] at answer
    simp only [CRingBufferT.call, queueCall, peek_eq_dequeue, answer]
    split
    · exact ⟨represents, rfl⟩
    · exact ⟨represents, rfl⟩
  | consume size => exact represents.consume size
  | clear =>
    obtain ⟨kept, emptied⟩ := represents.sound.clear_spec
    obtain ⟨memory, present⟩ := Option.isSome_iff_exists.mp represents.allocated
    refine ⟨⟨kept, ?_, ?_, emptied⟩, rfl⟩
    · simp [CRingBufferT.call, CRingBufferT.clear, present]
    · simpa [CRingBufferT.call, CRingBufferT.clear, present] using represents.capacity

end Represented

section Copies

variable {ring : CRingBufferT} (sound : ring.Sound)

include sound

theorem Sound.written_inside (next : Call) (segment : Segment) (member : segment ∈ ring.written next) :
    segment.offset + segment.length ≤ ring.capacity ∧
      ∀ cell, segment.covers cell → ¬ ring.Stored cell := by
  cases next with
  | enqueue data size readable =>
    have small := sound.dataSize_lt
    simp only [written] at member
    by_cases accepted : (ring.enqueue data size).2.returned = 0
    · simp [accepted] at member
    · have room : size ≤ ring.getFreeSize := by
        by_contra full
        exact accepted (by rw [enqueue_refused data size (.inr (.inr (by omega)))])
      have bound := room
      rw [sound.freeSize_eq] at bound
      rw [if_neg accepted, sound.copySegments_eq sound.writeInside (by omega)] at member
      exact ⟨split_inside sound.writeInside (by omega) segment member,
        fun cell covers => sound.split_free room member covers⟩
  | dequeue | peek | consume | clear => simp [written] at member

theorem Sound.copied_inside (next : Call) (segment : Segment) (member : segment ∈ ring.copied next) :
    segment.offset + segment.length ≤ ring.capacity := by
  have small := sound.dataSize_lt
  have inside (size : Nat) (enough : size ≤ ring.getDataSize)
      (among : segment ∈ ring.copySegments ring.readPos size) :
      segment.offset + segment.length ≤ ring.capacity := by
    rw [sound.copySegments_eq sound.readInside (by omega)] at among
    exact split_inside sound.readInside (by omega) segment among
  have enough (destination : Bool) (size : Nat)
      (answered : (ring.dequeue destination size).2.returned ≠ 0) : size ≤ ring.getDataSize := by
    by_contra short
    exact answered (by rw [dequeue_refused destination size (.inr (.inr (by omega)))])
  cases next with
  | dequeue destination size =>
    simp only [copied] at member
    split at member
    · simp at member
    · next answered => exact inside size (enough destination size answered) member
  | peek destination size =>
    simp only [copied, peek_eq_dequeue] at member
    split at member
    · simp at member
    · next answered => exact inside size (enough destination size answered) member
  | enqueue | consume | clear => simp [copied] at member

end Copies

theorem new_represents {capacity : Nat} (memory : Nat → UInt8) (positive : 1 ≤ capacity)
    (fits : capacity < 2 ^ 63) :
    Represents (new capacity (some memory)) (.empty : BoundedQueue UInt8 (capacity - 1)) := by
  refine ⟨new_sound (some memory) positive fits, ?_, ?_, new_contents capacity (some memory)⟩
  · simp [new, Nat.ne_of_gt positive]
  · simp only [new]; omega

/-- Every call sequence on an allocated ring is answered as by a queue of `capacity - 1` bytes. -/
theorem ring_refines_queue {capacity : Nat} (memory : Nat → UInt8) (positive : 1 ≤ capacity)
    (fits : capacity < 2 ^ 63) (calls : List Call) :
    let ring := (transcript call (new capacity (some memory)) calls).1
    let queue := (transcript queueCall (.empty : BoundedQueue UInt8 (capacity - 1)) calls).1
    (transcript call (new capacity (some memory)) calls).2 =
        (transcript queueCall (.empty : BoundedQueue UInt8 (capacity - 1)) calls).2 ∧
      ring.contents = queue.items ∧
      ring.getDataSize = queue.items.length ∧
      ring.getFreeSize = capacity - 1 - queue.items.length ∧
      ring.readPos < capacity ∧ ring.writePos < capacity ∧
      ∀ next : Call,
        (∀ segment ∈ ring.written next ++ ring.copied next,
          segment.offset + segment.length ≤ capacity) ∧
        (∀ segment ∈ ring.written next, ∀ cell, segment.covers cell → ¬ ring.Stored cell) := by
  obtain ⟨final, replies⟩ := transcript_refines
    (fun ring queue next (represents : Represents ring queue) => represents.call next) _ _ (new_represents memory positive fits) calls
  have size : (transcript call (new capacity (some memory)) calls).1.capacity = capacity := by
    rw [final.capacity]; omega
  refine ⟨replies, final.contents, final.dataSize, final.freeSize, ?_, ?_, ?_⟩
  · simpa [size] using final.sound.readInside
  · simpa [size] using final.sound.writeInside
  · intro next
    refine ⟨?_, fun segment member => (final.sound.written_inside next segment member).2⟩
    intro segment member
    rw [← size]
    rcases List.mem_append.mp member with writes | reads
    · exact (final.sound.written_inside next segment writes).1
    · exact final.sound.copied_inside next segment reads

theorem ring_refines_queue_full :
    let ring := (transcript call (new 3 (some fun _ => 0))
      [.enqueue (some [1, 2]) 2 (by simp), .consume 1, .enqueue (some [3]) 1 (by simp)]).1
    ring.contents = [2, 3] ∧ ring.readPos < 3 ∧ ring.writePos < 3 := by
  have full := ring_refines_queue (fun _ => 0) (by decide : 1 ≤ 3) (by decide)
    [.enqueue (some [1, 2]) 2 (by simp), .consume 1, .enqueue (some [3]) 1 (by simp)]
  exact ⟨by decide, full.2.2.2.2.1, full.2.2.2.2.2.1⟩

end MiniGames.CRingBufferT
