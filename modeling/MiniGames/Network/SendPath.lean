import MiniGames.Network.RingSound
import MiniGames.Network.Server

set_option autoImplicit false

namespace MiniGames

open Circular CRingBufferT Server

/-- The arguments of RequestSendMsg; `data` points to at least `length` bytes. -/
structure Payload where
  data : Option (List UInt8)
  length : Int
  isInt : -2 ^ 31 ≤ length ∧ length < 2 ^ 31
  readable : ∀ bytes, data = some bytes → length ≤ bytes.length
  deriving DecidableEq

-- Where a thread stands: the next guarded call on `_sendQ`, access to `_valid` or `_sending`, or
-- WSASend.
inductive SendPc where
  | idle
  -- RequestSendMsg
  | checkValid (payload : Payload)
  | enqueue (payload : Payload)
  -- PostSend
  | postValid
  | exchange
  | getSendInfo
  | releaseEarly
  | wsaSend (info : SendInfo)
  -- ProcessSend
  | sentValid (bytesTransferred : Nat)
  | consume (bytesTransferred : Nat)
  | getRest
  | wsaSendRest (info : SendInfo)
  | releaseSent
  | recheck
  -- the error branches of all three
  | releaseFailed
  | disconnect
  deriving DecidableEq

namespace Payload

def size (payload : Payload) : Nat := intToSize payload.length

def bytes (payload : Payload) : List UInt8 := (payload.data.getD []).take payload.size

-- A buffer passed with its own length.
def ofBytes (bytes : List UInt8) : Payload :=
  { data := some bytes
    length := sizeToInt bytes.length
    isInt := by
      have := @BitVec.le_toInt 32 (BitVec.ofNat 32 bytes.length)
      have := @BitVec.toInt_lt 32 (BitVec.ofNat 32 bytes.length)
      simp only [sizeToInt]
      omega
    readable := by
      intro read same
      cases same
      have := Nat.mod_le bytes.length (2 ^ 32)
      simp only [sizeToInt, BitVec.toInt_eq_toNat_cond, BitVec.toNat_ofNat]
      split <;> omega }

end Payload

namespace SendPc

structure Turn where
  session : CSession
  next : SendPc
  called : Option (List Segment)

/-- `accepted` is Winsock's answer to a WSASend and `garbage` what an unset WSABUF length holds. -/
def turn (session : CSession) (accepted : Bool) (garbage : Nat) : SendPc → Turn
  | .idle => ⟨session, .idle, none⟩
  | .checkValid payload => ⟨session, if session.valid then .enqueue payload else .idle, none⟩
  | .enqueue payload =>
      let enqueued := session.sendQ.enqueue payload.data payload.size
      ⟨session.storeSendQ enqueued.1,
        if enqueued.2.returned ≠ payload.size then .disconnect else .postValid, none⟩
  | .postValid => ⟨session, if session.valid then .exchange else .idle, none⟩
  | .exchange => ⟨session.storeSending true, if session.sending then .idle else .getSendInfo, none⟩
  | .getSendInfo =>
      let info := session.sendQ.getSendInfo
      ⟨session, if info.dataSize = 0 then .releaseEarly else .wsaSend info, none⟩
  | .releaseEarly => ⟨session.storeSending false, .idle, none⟩
  | .wsaSend info =>
      let segments := sendBuffers info
      if segments.isEmpty || lengthsZero segments garbage then
        ⟨session.armSend, .releaseEarly, none⟩
      else ⟨session.armSend, if accepted then .idle else .releaseFailed, some segments⟩
  | .sentValid bytesTransferred =>
      ⟨session, if session.valid then .consume bytesTransferred else .idle, none⟩
  | .consume bytesTransferred =>
      let consumed := session.sendQ.consume bytesTransferred
      ⟨session.storeSendQ consumed.1,
        if consumed.2.returned ≠ bytesTransferred then .disconnect else .getRest, none⟩
  | .getRest =>
      let info := session.sendQ.getSendInfo
      ⟨session, if info.dataSize > 0 then .wsaSendRest info else .releaseSent, none⟩
  | .wsaSendRest info =>
      let segments := sendBuffers info
      if segments.isEmpty then ⟨session.armSend, .releaseSent, none⟩
      else ⟨session.armSend, if accepted then .idle else .releaseFailed, some segments⟩
  | .releaseSent => ⟨session.storeSending false, .recheck, none⟩
  | .recheck => ⟨session, if session.sendQ.getDataSize > 0 then .postValid else .idle, none⟩
  | .releaseFailed => ⟨session.storeSending false, .disconnect, none⟩
  | .disconnect => ⟨session.storeValid false, .idle, none⟩

-- The bytes of a completion that ProcessSend has yet to consume.
def reported : SendPc → Nat
  | .sentValid bytesTransferred | .consume bytesTransferred => bytesTransferred
  | _ => 0

/-- Between winning the exchange on `_sending` and clearing it or handing it to a WSASend. -/
def owns : SendPc → Bool
  | .getSendInfo | .releaseEarly | .wsaSend _ | .sentValid _ | .consume _ | .getRest
  | .wsaSendRest _ | .releaseSent | .releaseFailed => true
  | _ => false

end SendPc

namespace CRingBufferT

theorem Sound.allocated {ring : CRingBufferT} (sound : ring.Sound) (stored : 0 < ring.getDataSize) :
    ring.buffer.isSome = true := by
  cases missing : ring.buffer with
  | some memory => rfl
  | none =>
    have empty := congrArg List.length (sound.unallocated_contents missing)
    rw [contents_length] at empty
    simp at empty
    omega

theorem Sound.directReadSize_eq {ring : CRingBufferT} (sound : ring.Sound) :
    ring.getDirectReadSize = min ring.getDataSize (ring.capacity - ring.readPos) := by
  have data := sound.dataSize_eq
  have small := sound.dataSize_lt
  obtain ⟨positive, fits, readInside, writeInside, _⟩ := id sound
  simp only [getDirectReadSize]
  by_cases ahead : ring.writePos ≥ ring.readPos
  · rw [if_pos (by omega)] at data
    rw [if_pos ahead, sizeSub_eq ahead (by omega)]
    omega
  · rw [if_neg (by omega)] at data
    rw [if_neg ahead, sizeSub_eq (by omega) (by omega)]
    omega

theorem Sound.enqueue_cases {ring : CRingBufferT} (sound : ring.Sound) (payload : Payload) :
    ring.enqueue payload.data payload.size = (ring, ⟨0, []⟩) ∨
      payload.bytes.length = payload.size ∧ 0 < payload.size ∧
        payload.size ≤ ring.getFreeSize ∧
        ring.enqueue payload.data payload.size =
          (ring.enqueued payload.bytes, ⟨payload.size, []⟩) := by
  cases missing : ring.buffer with
  | none => exact .inl (enqueue_null_buffer _ _ missing)
  | some memory =>
    by_cases refused : payload.data = none ∨ payload.size = 0 ∨ ring.getFreeSize < payload.size
    · exact .inl (enqueue_refused _ _ refused)
    · obtain ⟨bytes, data⟩ := Option.ne_none_iff_exists'.mp (by tauto : payload.data ≠ none)
      have free := sound.freeSize_eq
      have fits := sound.fits
      have room : payload.size ≤ ring.getFreeSize := by omega
      have readable : payload.size ≤ bytes.length := by
        have int := payload.isInt
        have enough := payload.readable bytes data
        simp only [Payload.size, intToSize] at *
        omega
      have taken : payload.bytes = bytes.take payload.size := by simp [Payload.bytes, data]
      refine .inr ⟨by simp [taken, readable], by omega, by omega, ?_⟩
      rw [data, taken]
      exact sound.enqueue_accepted readable (by simp [missing]) (by omega) (by omega)

theorem Sound.enqueue_payload {ring : CRingBufferT} (sound : ring.Sound) (payload : Payload) :
    (ring.enqueue payload.data payload.size).1.Sound ∧
      (ring.enqueue payload.data payload.size).1.capacity = ring.capacity ∧
      (ring.enqueue payload.data payload.size).1.readPos = ring.readPos ∧
      (ring.enqueue payload.data payload.size).1.contents = ring.contents ++
        if (ring.enqueue payload.data payload.size).2.returned = payload.size then payload.bytes
        else [] := by
  rcases sound.enqueue_cases payload with refused | ⟨length, positive, room, accepted⟩
  · rw [refused]
    refine ⟨sound, rfl, rfl, ?_⟩
    split
    · next none => simp [Payload.bytes, ← none]
    · simp
  · rw [accepted]
    obtain ⟨kept, _, stored⟩ := sound.enqueued_spec (by rw [length]; exact room)
    exact ⟨kept, rfl, rfl, by rw [stored]; simp⟩

end CRingBufferT

@[simp] theorem CRingBufferT.getSendInfo_dataSize (ring : CRingBufferT) :
    ring.getSendInfo.dataSize = ring.getDataSize := rfl

structure Covers (ring : CRingBufferT) (info : SendInfo) : Prop where
  some : 0 < info.dataSize
  stored : info.dataSize ≤ ring.getDataSize
  buffers : sendBuffers info = split ring.capacity ring.readPos info.dataSize

theorem getSendInfo_covers {ring : CRingBufferT} (sound : ring.Sound)
    (narrow : ring.capacity ≤ 2 ^ 32) (some : 0 < ring.getDataSize) :
    Covers ring ring.getSendInfo := by
  refine ⟨some, Nat.le_refl _, ?_⟩
  have inside := sound.readInside
  have small := sound.dataSize_lt
  have direct := sound.directReadSize_eq
  have posted : ring.getDirectReadSize > 0 := by omega
  have first : toULong ring.getDirectReadSize = ring.getDirectReadSize := toULong_eq (by omega)
  by_cases wraps : ring.getDataSize > ring.getDirectReadSize
  · have second : toULong (sizeSub ring.getDataSize ring.getDirectReadSize) =
        ring.getDataSize - ring.getDirectReadSize := by
      rw [sizeSub_eq (by omega) (by omega), toULong_eq (by omega)]
    have beyond : ¬ ring.getDataSize ≤ ring.capacity - ring.readPos := by omega
    have edge : ring.getDirectReadSize = ring.capacity - ring.readPos := by omega
    simp only [sendBuffers, getSendInfo, posted, wraps, if_true, first, second, split, beyond,
      if_false]
    rw [edge]
  · have within : ring.getDataSize ≤ ring.capacity - ring.readPos := by omega
    have all : ring.getDirectReadSize = ring.getDataSize := by omega
    simp only [sendBuffers, getSendInfo, posted, wraps, if_true, if_false, first, split, within]
    rw [all]

theorem Covers.isEmpty {ring : CRingBufferT} {info : SendInfo} (covers : Covers ring info) :
    (sendBuffers info).isEmpty = false := by
  rw [covers.buffers]
  simp only [split]
  split <;> rfl

theorem Covers.lengths {ring : CRingBufferT} {info : SendInfo} (sound : ring.Sound)
    (covers : Covers ring info) (garbage : Nat) :
    lengthsZero (sendBuffers info) garbage = false := by
  have inside := sound.readInside
  have some := covers.some
  rw [covers.buffers]
  simp only [split, lengthsZero]
  split <;> simp <;> omega

theorem gather_posted {ring : CRingBufferT} (sound : ring.Sound) {size : Nat}
    (stored : size ≤ ring.getDataSize) :
    gather ring.memory (split ring.capacity ring.readPos size) = ring.contents.take size := by
  have small := sound.dataSize_lt
  rw [gather_split _ sound.readInside (by omega), contents, window_take _ _ _ stored]

end MiniGames
