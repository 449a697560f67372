import MiniGames.Network.ReceiveWindow
import MiniGames.Network.SendPath

set_option autoImplicit false

namespace MiniGames

open Circular CRingBufferT Server

namespace CRingBufferT

-- What the server does to its rings: a copying call, or one half of a receive.
inductive Operation where
  | call (next : Call)
  | fill (segments : List Segment) (bytes : List UInt8)
  | moveWritePtr (size : Nat)

def operate (ring : CRingBufferT) : Operation → CRingBufferT
  | .call next => (ring.call next).1
  | .fill segments bytes => fill ring segments bytes
  | .moveWritePtr size => (ring.moveWritePtr size).1

theorem operate_kept (ring : CRingBufferT) (operation : Operation) :
    Kept ring (ring.operate operation) := by
  cases operation with
  | call next => exact call_kept ring next
  | fill segments bytes => exact fill_kept ring segments bytes
  | moveWritePtr size => exact moveWritePtr_kept ring size

theorem operations_kept (ring : CRingBufferT) (operations : List Operation) :
    Kept ring (operations.foldl operate ring) := by
  induction operations generalizing ring with
  | nil => exact .refl ring
  | cons operation rest ih => exact (operate_kept ring operation).trans (ih _)

theorem operated {capacity : Nat} (memory : Nat → UInt8) (positive : 1 ≤ capacity)
    (narrow : capacity ≤ 2 ^ 32) (operations : List Operation) :
    let ring := operations.foldl operate (new capacity (some memory))
    ring.Sound ∧ ring.capacity = capacity ∧ ring.buffer.isSome = true := by
  have kept := operations_kept (new capacity (some memory)) operations
  have allocated : (new capacity (some memory)).buffer.isSome = true := by
    simp [new, Nat.ne_of_gt positive]
  exact ⟨kept.sound (new_sound (some memory) positive (by omega)), kept.capacity,
    kept.allocated.trans allocated⟩

end CRingBufferT

section Receive

variable {ring : CRingBufferT} (sound : ring.Sound) (narrow : ring.capacity ≤ 2 ^ 32)

include sound

theorem recvBuffers_full (full : ring.getFreeSize = 0) : recvBuffers ring = [] := by
  have direct := directWriteSize_eq sound
  have closed : ¬ ring.getDirectWriteSize > 0 := by omega
  simp [recvBuffers, closed]

include narrow

theorem recvBuffers_nil : recvBuffers ring = [] ↔ ring.getFreeSize = 0 := by
  constructor
  · intro none
    have size := recvBuffers_total sound narrow
    rw [none] at size
    exact size.symm
  · exact recvBuffers_full sound

theorem recvBuffers_free :
    (recvBuffers ring).length ≤ 2 ∧
      (∀ segment ∈ recvBuffers ring, segment.offset + segment.length ≤ ring.capacity) ∧
      ((recvBuffers ring).Pairwise fun first second =>
        ∀ cell, first.covers cell → ¬ second.covers cell) ∧
      ∀ segment ∈ recvBuffers ring, ∀ cell, segment.covers cell → ¬ ring.Stored cell := by
  rcases Nat.eq_zero_or_pos ring.getFreeSize with full | room
  · simp [recvBuffers_full sound full]
  · have free := sound.freeSize_eq
    rw [recvBuffers_eq sound narrow room]
    refine ⟨split_length _ _ _, split_inside sound.writeInside (by omega),
      split_disjoint (by omega), ?_⟩
    intro segment member cell covers
    exact sound.split_free (Nat.le_refl _) member covers

theorem receive_eq_enqueue (allocated : ring.buffer.isSome = true) {bytes : List UInt8}
    (room : bytes.length ≤ ring.getFreeSize) :
    (fill ring (recvBuffers ring) bytes).moveWritePtr bytes.length =
      ring.enqueue (some bytes) bytes.length := by
  by_cases none : bytes = []
  · subst none
    have same : fill ring (recvBuffers ring) [] = ring := by
      simp [fill, scatter_nil]
    rw [List.length_nil, same, moveWritePtr_refused 0 (.inl rfl),
      enqueue_refused _ 0 (.inr (.inl rfl))]
  · rw [fill_moveWritePtr sound narrow allocated none room,
      sound.enqueue_accepted (Nat.le_refl _) allocated (List.length_pos_of_ne_nil none) room,
      List.take_length]

end Receive

/-- A completed receive stores its bytes where an Enqueue would put them. -/
theorem zero_copy_receive {capacity : Nat} (memory : Nat → UInt8) (positive : 1 ≤ capacity)
    (narrow : capacity ≤ 2 ^ 32) (operations : List Operation) :
    let ring := operations.foldl operate (new capacity (some memory))
    let segments := recvBuffers ring
    segments.length ≤ 2 ∧
      (∀ segment ∈ segments, segment.offset + segment.length ≤ capacity) ∧
      (segments.Pairwise fun first second => ∀ cell, first.covers cell → ¬ second.covers cell) ∧
      (∀ segment ∈ segments, ∀ cell, segment.covers cell → ¬ ring.Stored cell) ∧
      total segments = ring.getFreeSize ∧
      (segments = [] ↔ ring.getFreeSize = 0) ∧
      ∀ bytes : List UInt8, bytes.length ≤ ring.getFreeSize →
        (fill ring segments bytes).moveWritePtr bytes.length =
            ring.enqueue (some bytes) bytes.length ∧
          (ring.enqueue (some bytes) bytes.length).1.contents = ring.contents ++ bytes := by
  obtain ⟨sound, size, allocated⟩ := operated memory positive narrow operations
  have fits := size ▸ narrow
  obtain ⟨few, inside, disjoint, free⟩ := recvBuffers_free sound fits
  rw [size] at inside
  refine ⟨few, inside, disjoint, free, recvBuffers_total sound fits, recvBuffers_nil sound fits, ?_⟩
  intro bytes room
  refine ⟨receive_eq_enqueue sound fits allocated room, ?_⟩
  rcases Nat.eq_zero_or_pos bytes.length with none | positive
  · rw [none, enqueue_refused _ 0 (.inr (.inl rfl)), List.length_eq_zero_iff.mp none,
      List.append_nil]
  · rw [sound.enqueue_accepted (Nat.le_refl _) allocated positive room, List.take_length]
    exact (sound.enqueued_spec room).2.2

theorem zero_copy_receive_wraps :
    let ring := [Operation.moveWritePtr 2, .call (.consume 1)].foldl operate
      (new 3 (some fun _ => 0))
    total (recvBuffers ring) = 1 ∧ ring.getFreeSize = 1 := by
  have received := zero_copy_receive (fun _ => 0) (show 1 ≤ 3 by decide) (by decide)
    [.moveWritePtr 2, .call (.consume 1)]
  have free : ([Operation.moveWritePtr 2, .call (.consume 1)].foldl operate
      (new 3 (some fun _ => 0))).getFreeSize = 1 := by decide
  exact ⟨received.2.2.2.2.1.trans free, free⟩

-- The cast to ULONG drops the high half of a window of `2 ^ 32` bytes.
theorem recvBuffers_truncated :
    total (recvBuffers (new (2 ^ 32 + 1) (some fun _ => 0))) ≠
      (new (2 ^ 32 + 1) (some fun _ => 0)).getFreeSize := by
  decide

section Send

variable {ring : CRingBufferT} (sound : ring.Sound) (narrow : ring.capacity ≤ 2 ^ 32)
  (stored : 0 < ring.getDataSize)

include sound narrow stored

theorem sendBuffers_stored :
    (sendBuffers ring.getSendInfo).length ≤ 2 ∧
      (∀ segment ∈ sendBuffers ring.getSendInfo,
        segment.offset + segment.length ≤ ring.capacity) ∧
      (∃ first rest, sendBuffers ring.getSendInfo = first :: rest ∧ 0 < first.length) ∧
      total (sendBuffers ring.getSendInfo) = ring.getDataSize := by
  have small := sound.dataSize_lt
  have covers := getSendInfo_covers sound narrow stored
  rw [covers.buffers]
  exact ⟨split_length _ _ _, split_inside sound.readInside (Nat.le_of_lt small),
    split_head sound.readInside stored, total_split _ _ _⟩

theorem send_eq_dequeue (allocated : ring.buffer.isSome = true) :
    ring.dequeue true ring.getDataSize =
      (ring.drained ring.getDataSize,
        ⟨ring.getDataSize, gather ring.memory (sendBuffers ring.getSendInfo)⟩) := by
  have covers := getSendInfo_covers sound narrow stored
  have posted := gather_posted sound (Nat.le_refl ring.getDataSize)
  rw [sound.dequeue_accepted allocated stored (Nat.le_refl _), covers.buffers,
    getSendInfo_dataSize, posted]

theorem send_posts (session : CSession) (accepted : Bool) (garbage : Nat) :
    ((SendPc.wsaSend ring.getSendInfo).turn session accepted garbage).called =
        some (sendBuffers ring.getSendInfo) ∧
      ((SendPc.wsaSendRest ring.getSendInfo).turn session accepted garbage).called =
        some (sendBuffers ring.getSendInfo) := by
  have covers := getSendInfo_covers sound narrow stored
  simp [SendPc.turn, covers.isEmpty, covers.lengths sound garbage]

end Send

/-- The buffers of a snapshot hold what a Dequeue of all its bytes would copy. -/
theorem zero_copy_send {capacity : Nat} (memory : Nat → UInt8) (positive : 1 ≤ capacity)
    (narrow : capacity ≤ 2 ^ 32) (operations : List Operation)
    (stored : 0 < (operations.foldl operate (new capacity (some memory))).getDataSize) :
    let ring := operations.foldl operate (new capacity (some memory))
    let info := ring.getSendInfo
    let segments := sendBuffers info
    segments.length ≤ 2 ∧
      (∀ segment ∈ segments, segment.offset + segment.length ≤ capacity) ∧
      (∃ first rest, segments = first :: rest ∧ 0 < first.length) ∧
      total segments = info.dataSize ∧
      (ring.dequeue true info.dataSize).2 = ⟨info.dataSize, gather ring.memory segments⟩ ∧
      (∀ k, 1 ≤ k → k ≤ info.dataSize →
        (ring.consume k).1 = (ring.dequeue true k).1 ∧
          (ring.consume k).2.returned = k ∧ (ring.dequeue true k).2.returned = k) ∧
      ∀ (session : CSession) (accepted : Bool) (garbage : Nat),
        ((SendPc.wsaSend info).turn session accepted garbage).called = some segments ∧
          ((SendPc.wsaSendRest info).turn session accepted garbage).called = some segments := by
  obtain ⟨sound, size, allocated⟩ := operated memory positive narrow operations
  have fits := size ▸ narrow
  obtain ⟨few, inside, head, whole⟩ := sendBuffers_stored sound fits stored
  rw [size] at inside
  refine ⟨few, inside, head, whole, ?_, ?_, send_posts sound fits stored⟩
  · exact congrArg Prod.snd (send_eq_dequeue sound fits stored allocated)
  · intro k some enough
    rw [sound.consume_accepted allocated some enough, sound.dequeue_accepted allocated some enough]
    exact ⟨rfl, rfl, rfl⟩

theorem zero_copy_send_one :
    let ring := [Operation.call (.enqueue (some [7]) 1 (by simp))].foldl operate
      (new 2 (some fun _ => 0))
    gather ring.memory (sendBuffers ring.getSendInfo) = [7] := by
  have sent := zero_copy_send (fun _ => 0) (show 1 ≤ 2 by decide) (by decide)
    [.call (.enqueue (some [7]) 1 (by simp))] (by decide)
  exact (congrArg Reply.copied sent.2.2.2.2.1).symm.trans (by decide)

-- All of `2 ^ 32` stored bytes are cut to a first buffer of length 0, and PostSend gives up.
theorem sendBuffers_truncated :
    let ring := [Operation.moveWritePtr (2 ^ 32)].foldl operate (new (2 ^ 32 + 1) (some fun _ => 0))
    0 < ring.getSendInfo.dataSize ∧ total (sendBuffers ring.getSendInfo) ≠ ring.getSendInfo.dataSize ∧
      ((SendPc.wsaSend ring.getSendInfo).turn (.new none none) true 0).called = none := by
  decide

end MiniGames
