import MiniGames.Network.RingSound
import MiniGames.Network.Server

set_option autoImplicit false

namespace MiniGames.Server

open Circular CRingBufferT

theorem fill_kept (ring : CRingBufferT) (segments : List Segment) (bytes : List UInt8) :
    Kept ring (fill ring segments bytes) where
  sound := by
    intro sound
    obtain ⟨positive, fits, readInside, writeInside, unallocated⟩ := sound
    exact ⟨positive, fits, readInside, writeInside, by simpa [fill] using unallocated⟩
  capacity := rfl
  allocated := by simp [fill]

variable {ring : CRingBufferT} (sound : ring.Sound) (narrow : ring.capacity ≤ 2 ^ 32)

include sound

theorem directWriteSize_eq :
    ring.getDirectWriteSize = min ring.getFreeSize (ring.capacity - ring.writePos) := by
  have small := sound.dataSize_lt
  have data := sound.dataSize_eq
  obtain ⟨positive, fits, readInside, writeInside, _⟩ := id sound
  have rest := sizeSub_eq (Nat.le_of_lt writeInside) (by omega : ring.capacity < 2 ^ 64)
  rw [sound.freeSize_eq]
  simp only [getDirectWriteSize, rest]
  by_cases ahead : ring.writePos ≥ ring.readPos
  · rw [if_pos (by omega)] at data
    rw [if_pos ahead]
    by_cases start : ring.readPos = 0
    · rw [if_pos start, sizeSub_eq (by omega) (by omega)]
      omega
    · rw [if_neg start]
      omega
  · rw [if_neg (by omega)] at data
    have gap := sizeSub_eq (show ring.writePos ≤ ring.readPos by omega) (by omega)
    rw [if_neg ahead, gap, sizeSub_eq (by omega) (by omega)]
    omega

include narrow

theorem recvBuffers_eq (room : 0 < ring.getFreeSize) :
    recvBuffers ring = split ring.capacity ring.writePos ring.getFreeSize := by
  have inside := sound.writeInside
  have free := sound.freeSize_eq
  have direct := directWriteSize_eq sound
  have posted : ring.getDirectWriteSize > 0 := by omega
  have first : toULong ring.getDirectWriteSize = ring.getDirectWriteSize := toULong_eq (by omega)
  by_cases wraps : ring.getFreeSize > ring.getDirectWriteSize
  · have second : toULong (sizeSub ring.getFreeSize ring.getDirectWriteSize) =
        ring.getFreeSize - ring.getDirectWriteSize := by
      rw [sizeSub_eq (by omega) (by omega), toULong_eq (by omega)]
    have beyond : ¬ ring.getFreeSize ≤ ring.capacity - ring.writePos := by omega
    have edge : ring.getDirectWriteSize = ring.capacity - ring.writePos := by omega
    simp only [recvBuffers, getWritePtr, posted, wraps, if_true, first, second, split, beyond,
      if_false]
    rw [edge]
  · have within : ring.getFreeSize ≤ ring.capacity - ring.writePos := by omega
    have all : ring.getDirectWriteSize = ring.getFreeSize := by omega
    simp only [recvBuffers, getWritePtr, posted, wraps, if_true, if_false, first, split, within]
    rw [all]

theorem recvBuffers_total : total (recvBuffers ring) = ring.getFreeSize := by
  rcases Nat.eq_zero_or_pos ring.getFreeSize with full | room
  · have direct := directWriteSize_eq sound
    have closed : ¬ ring.getDirectWriteSize > 0 := by omega
    simp [recvBuffers, closed, total, full]
  · rw [recvBuffers_eq sound narrow room, total_split]

theorem fill_moveWritePtr {bytes : List UInt8} (allocated : ring.buffer.isSome)
    (some : bytes ≠ []) (room : bytes.length ≤ ring.getFreeSize) :
    (fill ring (recvBuffers ring) bytes).moveWritePtr bytes.length =
      (ring.enqueued bytes, ⟨bytes.length, []⟩) := by
  have positive : 0 < bytes.length := List.length_pos_of_ne_nil some
  have bound := sound.freeSize_eq
  have filled : fill ring (recvBuffers ring) bytes =
      { ring with buffer := Option.some (store ring.memory ring.capacity ring.writePos bytes) } := by
    obtain ⟨memory, present⟩ := Option.isSome_iff_exists.mp allocated
    rw [recvBuffers_eq sound narrow (by omega)]
    simp only [fill, CRingBufferT.memory, present, Option.map_some, Option.getD_some]
    rw [scatter_split memory bytes sound.writeInside (by omega) room]
  have kept : Sound
      { ring with buffer := Option.some (store ring.memory ring.capacity ring.writePos bytes) } :=
    ⟨sound.positive, sound.fits, sound.readInside, sound.writeInside, fun missing => by simp at missing⟩
  rw [filled, kept.moveWritePtr_accepted rfl positive room]
  rfl

end MiniGames.Server
