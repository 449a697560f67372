import MiniGames.Shared.Circular

set_option autoImplicit false

namespace MiniGames

open Circular

-- `size_t` arithmetic wraps at 64 bits.
def sizeAdd (a b : Nat) : Nat := (a + b) % 2 ^ 64

def sizeSub (a b : Nat) : Nat := (a + 2 ^ 64 - b) % 2 ^ 64

def toULong (size : Nat) : Nat := size % 2 ^ 32

theorem sizeAdd_eq {a b : Nat} (bound : a + b < 2 ^ 64) : sizeAdd a b = a + b :=
  Nat.mod_eq_of_lt bound

theorem sizeSub_eq {a b : Nat} (order : b ≤ a) (bound : a < 2 ^ 64) : sizeSub a b = a - b := by
  unfold sizeSub; omega

theorem toULong_eq {size : Nat} (bound : size < 2 ^ 32) : toULong size = size :=
  Nat.mod_eq_of_lt bound

-- One definition stands for the unlocked and the mutex-guarded ring, whose bodies are the same.
-- `none` is the null buffer of a ring of capacity 0 or of a failed allocation.
structure CRingBufferT where
  buffer : Option (Nat → UInt8)
  capacity : Nat
  readPos : Nat
  writePos : Nat

-- What a call returned, and the bytes it wrote through a destination pointer.
structure Reply where
  returned : Nat
  copied : List UInt8
  deriving DecidableEq, Repr

structure SendInfo where
  readPtr : Nat
  dataSize : Nat
  directReadSize : Nat
  deriving DecidableEq, Repr

namespace CRingBufferT

-- The constructor; `allocated` is what the nothrow `new` returned.
def new (capacity : Nat) (allocated : Option (Nat → UInt8)) : CRingBufferT :=
  { buffer := if capacity = 0 then none else allocated
    capacity := capacity
    readPos := 0
    writePos := 0 }

def isValid (ring : CRingBufferT) : Bool := ring.buffer.isSome

def getDataSize (ring : CRingBufferT) : Nat :=
  if ring.writePos ≥ ring.readPos then sizeSub ring.writePos ring.readPos
  else sizeAdd (sizeSub ring.capacity ring.readPos) ring.writePos

def getFreeSize (ring : CRingBufferT) : Nat :=
  let dataSize := ring.getDataSize
  if dataSize ≥ sizeSub ring.capacity 1 then 0
  else sizeSub (sizeSub ring.capacity dataSize) 1

def getDirectWriteSize (ring : CRingBufferT) : Nat :=
  if ring.writePos ≥ ring.readPos then
    if ring.readPos = 0 then sizeSub (sizeSub ring.capacity ring.writePos) 1
    else sizeSub ring.capacity ring.writePos
  else sizeSub (sizeSub ring.readPos ring.writePos) 1

def getDirectReadSize (ring : CRingBufferT) : Nat :=
  if ring.writePos ≥ ring.readPos then sizeSub ring.writePos ring.readPos
  else sizeSub ring.capacity ring.readPos

-- Pointers into `_buffer` are offsets.
def getWritePtr (ring : CRingBufferT) : Nat := ring.writePos

def getReadPtr (ring : CRingBufferT) : Nat := ring.readPos

def getSendInfo (ring : CRingBufferT) : SendInfo :=
  { readPtr := ring.readPos
    dataSize := ring.getDataSize
    directReadSize := ring.getDirectReadSize }

-- The one or two `memcpy` targets of a copy of `size` bytes from `position` on.
def copySegments (ring : CRingBufferT) (position size : Nat) : List Segment :=
  let first := min size (sizeSub ring.capacity position)
  ⟨position, first⟩ :: if size > first then [⟨0, sizeSub size first⟩] else []

def enqueue (ring : CRingBufferT) (data : Option (List UInt8)) (size : Nat) :
    CRingBufferT × Reply :=
  match ring.buffer, data with
  | some memory, some bytes =>
      if size = 0 then (ring, ⟨0, []⟩)
      else if ring.getFreeSize < size then (ring, ⟨0, []⟩)
      else
        ({ ring with
            buffer := some (scatter memory (ring.copySegments ring.writePos size) (bytes.take size))
            writePos := sizeAdd ring.writePos size % ring.capacity }, ⟨size, []⟩)
  | _, _ => (ring, ⟨0, []⟩)

-- `destination` tells whether the caller's pointer is non-null.
def dequeue (ring : CRingBufferT) (destination : Bool) (size : Nat) : CRingBufferT × Reply :=
  match ring.buffer, destination with
  | some memory, true =>
      if size = 0 then (ring, ⟨0, []⟩)
      else if ring.getDataSize < size then (ring, ⟨0, []⟩)
      else
        ({ ring with readPos := sizeAdd ring.readPos size % ring.capacity },
          ⟨size, gather memory (ring.copySegments ring.readPos size)⟩)
  | _, _ => (ring, ⟨0, []⟩)

def peek (ring : CRingBufferT) (destination : Bool) (size : Nat) : Reply :=
  match ring.buffer, destination with
  | some memory, true =>
      if size = 0 then ⟨0, []⟩
      else if ring.getDataSize < size then ⟨0, []⟩
      else ⟨size, gather memory (ring.copySegments ring.readPos size)⟩
  | _, _ => ⟨0, []⟩

def consume (ring : CRingBufferT) (size : Nat) : CRingBufferT × Reply :=
  match ring.buffer with
  | some _ =>
      if size = 0 then (ring, ⟨0, []⟩)
      else if ring.getDataSize < size then (ring, ⟨0, []⟩)
      else ({ ring with readPos := sizeAdd ring.readPos size % ring.capacity }, ⟨size, []⟩)
  | none => (ring, ⟨0, []⟩)

def moveWritePtr (ring : CRingBufferT) (size : Nat) : CRingBufferT × Reply :=
  match ring.buffer with
  | some _ =>
      if size = 0 then (ring, ⟨0, []⟩)
      else if ring.getFreeSize < size then (ring, ⟨0, []⟩)
      else ({ ring with writePos := sizeAdd ring.writePos size % ring.capacity }, ⟨size, []⟩)
  | none => (ring, ⟨0, []⟩)

def clear (ring : CRingBufferT) : CRingBufferT :=
  match ring.buffer with
  | some _ => { ring with readPos := 0, writePos := 0 }
  | none => ring

-- A call on the copying interface; a source pointer refers to at least `size` bytes.
inductive Call where
  | enqueue (data : Option (List UInt8)) (size : Nat)
      (readable : ∀ bytes, data = some bytes → size ≤ bytes.length)
  | dequeue (destination : Bool) (size : Nat)
  | peek (destination : Bool) (size : Nat)
  | consume (size : Nat)
  | clear

def call (ring : CRingBufferT) : Call → CRingBufferT × Reply
  | .enqueue data size _ => ring.enqueue data size
  | .dequeue destination size => ring.dequeue destination size
  | .peek destination size => (ring, ring.peek destination size)
  | .consume size => ring.consume size
  | .clear => (ring.clear, ⟨0, []⟩)

-- The segments into which, and from which, a successful call copies bytes.
def written (ring : CRingBufferT) : Call → List Segment
  | .enqueue data size _ =>
      if (ring.enqueue data size).2.returned = 0 then [] else ring.copySegments ring.writePos size
  | _ => []

def copied (ring : CRingBufferT) : Call → List Segment
  | .dequeue destination size =>
      if (ring.dequeue destination size).2.returned = 0 then []
      else ring.copySegments ring.readPos size
  | .peek destination size =>
      if (ring.peek destination size).returned = 0 then [] else ring.copySegments ring.readPos size
  | _ => []

def memory (ring : CRingBufferT) : Nat → UInt8 := ring.buffer.getD fun _ => 0

def contents (ring : CRingBufferT) : List UInt8 :=
  window ring.memory ring.capacity ring.readPos ring.getDataSize

def Stored (ring : CRingBufferT) (cell : Nat) : Prop :=
  ∃ k < ring.getDataSize, wrap ring.capacity ring.readPos k = cell

end CRingBufferT

end MiniGames
