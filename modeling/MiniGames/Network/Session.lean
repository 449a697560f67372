import MiniGames.Network.RingBuffer
import Mathlib.Data.BitVec

set_option autoImplicit false

namespace MiniGames

abbrev Index := BitVec 16
abbrev SessionId := BitVec 64

-- Every `accept` returns a handle that no earlier one returned; INVALID_SOCKET is `none`.
abbrev Socket := Nat

def sessionUniqueMask : BitVec 64 := 0x0000FFFFFFFFFFFF#64

def extractIndex (sessionId : SessionId) : Index :=
  (sessionId.sshiftRight 48 &&& 0xFFFF#64).setWidth 16

def extractUniqueId (sessionId : SessionId) : BitVec 64 := sessionId &&& sessionUniqueMask

def makeSessionId (index : Index) (uniqueId : BitVec 64) : SessionId :=
  (index.setWidth 64 <<< 48) ||| (uniqueId &&& sessionUniqueMask)

inductive IOOperation where
  | recv
  | send
  | accept
  deriving DecidableEq, Repr

inductive ServerArchitectureType where
  | echoTest
  | centralized
  | partitioned
  | unifiedStrand
  deriving DecidableEq, Repr

structure OverlappedEx where
  sessionId : SessionId
  operation : IOOperation
  deriving DecidableEq, Repr

structure CSession where
  socket : Option Socket
  sessionId : SessionId
  valid : Bool
  sending : Bool
  recvQ : CRingBufferT
  sendQ : CRingBufferT
  recvOverlapped : OverlappedEx
  sendOverlapped : OverlappedEx
  -- Not in the source: which accepted socket the slot was last initialised for, 0 before any.
  incarnation : Nat

namespace CSession

-- The stores of `Initialize`, in the order of the source.
def storeSocket (socket : Option Socket) (incarnation : Nat) (session : CSession) : CSession :=
  { session with socket := socket, incarnation := incarnation }

def storeSessionId (sessionId : SessionId) (session : CSession) : CSession :=
  { session with sessionId := sessionId }

def storeValid (valid : Bool) (session : CSession) : CSession := { session with valid := valid }

def storeSending (sending : Bool) (session : CSession) : CSession :=
  { session with sending := sending }

def clearRecvQ (session : CSession) : CSession := { session with recvQ := session.recvQ.clear }

def clearSendQ (session : CSession) : CSession := { session with sendQ := session.sendQ.clear }

def storeOverlapped (sessionId : SessionId) (session : CSession) : CSession :=
  { session with
    recvOverlapped := ⟨sessionId, .recv⟩
    sendOverlapped := ⟨sessionId, .send⟩ }

def initializeSession (socket : Option Socket) (sessionId : SessionId) (incarnation : Nat)
    (session : CSession) : CSession :=
  session.storeSocket socket incarnation
    |>.storeSessionId sessionId
    |>.storeValid true
    |>.storeSending false
    |>.clearRecvQ
    |>.clearSendQ
    |>.storeOverlapped sessionId

-- The constructor, given what the allocations of the two default-sized rings returned.
def new (recvMemory sendMemory : Option (Nat → UInt8)) : CSession :=
  initializeSession none 0 0
    { socket := none
      sessionId := 0
      valid := false
      sending := false
      recvQ := .new 65536 recvMemory
      sendQ := .new 65536 sendMemory
      recvOverlapped := ⟨0, .recv⟩
      sendOverlapped := ⟨0, .send⟩
      incarnation := 0 }

def overlapped (session : CSession) : IOOperation → OverlappedEx
  | .send => session.sendOverlapped
  | _ => session.recvOverlapped

-- What PostRecv and the send path write into the OverlappedEx before they post it.
def armRecv (session : CSession) : CSession :=
  { session with recvOverlapped := ⟨session.sessionId, .recv⟩ }

def armSend (session : CSession) : CSession :=
  { session with sendOverlapped := ⟨session.sessionId, .send⟩ }

def storeRecvQ (ring : CRingBufferT) (session : CSession) : CSession :=
  { session with recvQ := ring }

def storeSendQ (ring : CRingBufferT) (session : CSession) : CSession :=
  { session with sendQ := ring }

end CSession

theorem sessionUniqueMask_bits (i : Nat) : sessionUniqueMask.getLsbD i = decide (i < 48) := by
  by_cases bound : i < 64
  · have all : ∀ i < 64, sessionUniqueMask.getLsbD i = decide (i < 48) := by decide
    exact all i bound
  · rw [BitVec.getLsbD_of_ge _ _ (by omega)]
    simp; omega

-- The index reaches the sign bit, so the shift back is an arithmetic one.
theorem extractIndex_makeSessionId (index : Index) (uniqueId : BitVec 64) :
    extractIndex (makeSessionId index uniqueId) = index := by
  apply BitVec.eq_of_getLsbD_eq
  intro i bound
  have mask : ∀ i < 16, (0xFFFF#64).getLsbD i = true := by decide
  have inside : 48 + i < 64 := by omega
  have high : ¬ 48 + i < 48 := by omega
  simp only [extractIndex, makeSessionId, BitVec.getLsbD_setWidth, BitVec.getLsbD_and,
    BitVec.getLsbD_sshiftRight, BitVec.getLsbD_or, BitVec.getLsbD_shiftLeft,
    sessionUniqueMask_bits, mask i bound, inside, high, bound]
  simp [show i < 64 by omega]

theorem extractUniqueId_makeSessionId (index : Index) (uniqueId : BitVec 64) :
    extractUniqueId (makeSessionId index uniqueId) = uniqueId &&& sessionUniqueMask := by
  apply BitVec.eq_of_getLsbD_eq
  intro i bound
  by_cases low : i < 48 <;>
    simp [extractUniqueId, makeSessionId, sessionUniqueMask_bits, low]

theorem extractUniqueId_counter (index : Index) {counter : BitVec 64}
    (early : counter.toNat < 2 ^ 48) :
    extractUniqueId (makeSessionId index (counter &&& sessionUniqueMask)) = counter := by
  rw [extractUniqueId_makeSessionId]
  apply BitVec.eq_of_getLsbD_eq
  intro i bound
  by_cases low : i < 48
  · simp [sessionUniqueMask_bits, low]
  · have high : counter.toNat < 2 ^ i :=
      Nat.lt_of_lt_of_le early (Nat.pow_le_pow_right (by omega) (by omega))
    have clear : counter.getLsbD i = false := Nat.testBit_lt_two_pow high
    simp [sessionUniqueMask_bits, low, clear]

end MiniGames
