import EventFormation.Receive.Ring
import Std.Data.TreeMap

namespace EventFormation

/-- Slots of equal size in one block of memory. Behind each slot stand guard bytes, which only a
write past its end can change. -/
structure SlotBuffer where
  ring : Ring
  slotSize : Nat
  /-- The bytes of memory that have been written, by their places. -/
  written : Std.TreeMap Nat UInt8 := {}
  lengths : Array Nat
  current : Nat := 0
  deriving Repr

namespace SlotBuffer

def guardBytes : List UInt8 := [0xDE, 0xAD, 0xBE, 0xEF, 0xCA, 0xFE, 0xF0, 0x0D]

/-- Bytes from the start of a slot to the start of the next. -/
def stride (b : SlotBuffer) : Nat := b.slotSize + guardBytes.length

/-- A byte of memory before anything is written. Slots hold zeros, and behind each is its guard. -/
def blankByte (slotSize place : Nat) : UInt8 :=
  let offset := place % (slotSize + guardBytes.length)
  if offset < slotSize then 0 else guardBytes.getD (offset - slotSize) 0

def byteAt (b : SlotBuffer) (place : Nat) : UInt8 :=
  b.written.getD place (blankByte b.slotSize place)

def memorySize (slots slotSize : Nat) : Except Fault Nat := do
  let stride ← checkedSum slotSize guardBytes.length
  let total ← checkedProduct slots stride
  checkCapacity total 1
  return total

/-- An empty buffer. Neither the number of slots nor their size may be zero. -/
def allocate (slots slotSize : Nat) : Except SlotError (Except Fault SlotBuffer) :=
  match Ring.ofSize? slots with
  | none => .error (.invalidGeometry slots slotSize)
  | some ring =>
    if slotSize = 0 then .error (.invalidGeometry slots slotSize)
    else .ok do
      discard (memorySize slots slotSize)
      return { ring, slotSize, lengths := Array.replicate slots 0 }

def slots (b : SlotBuffer) : Nat := b.ring.size

def checkIndex (b : SlotBuffer) (index : Nat) : Except SlotError Unit :=
  if b.ring.contains index then .ok () else .error (.indexOutOfRange index b.slots)

/-- Writes bytes one after another, from a place on. -/
def writeFrom (written : Std.TreeMap Nat UInt8) : Nat → List UInt8 → Std.TreeMap Nat UInt8
  | _, [] => written
  | place, byte :: rest => writeFrom (written.insert place byte) (place + 1) rest

theorem getD_writeFrom_of_lt (written : Std.TreeMap Nat UInt8) {place other : Nat} (bytes : List UInt8)
    (blank : UInt8) (before : other < place) :
    (writeFrom written place bytes).getD other blank = written.getD other blank := by
  induction bytes generalizing written place with
  | nil => rfl
  | cons byte rest ih =>
    have apart : place ≠ other := Nat.ne_of_gt before
    rw [writeFrom, ih _ (Nat.lt_succ_of_lt before), Std.TreeMap.getD_insert]
    simp [apart]

theorem getD_writeFrom_add (written : Std.TreeMap Nat UInt8) (place offset : Nat) (bytes : List UInt8)
    (blank : UInt8) :
    (writeFrom written place bytes).getD (place + offset) blank =
      bytes[offset]?.getD (written.getD (place + offset) blank) := by
  induction bytes generalizing written place offset with
  | nil => rfl
  | cons byte rest ih =>
    cases offset with
    | zero => simp [writeFrom, getD_writeFrom_of_lt]
    | succ offset =>
      have there : place + (offset + 1) = place + 1 + offset := by omega
      rw [writeFrom, there, ih, Std.TreeMap.getD_insert]
      simp [show place ≠ place + 1 + offset by omega]

/-- Writes into a slot. What would go past its end is left out. -/
def write (b : SlotBuffer) (index offset : Nat) (bytes : List UInt8) : Except SlotError SlotBuffer := do
  b.checkIndex index
  let fitting := bytes.take (b.slotSize - offset)
  return { b with written := writeFrom b.written (index * b.stride + offset) fitting }

def setLength (b : SlotBuffer) (index length : Nat) : Except SlotError SlotBuffer := do
  b.checkIndex index
  if length > b.slotSize then throw (.lengthExceedsCapacity index length b.slotSize)
  return { b with lengths := b.lengths.setIfInBounds index length }

def length (b : SlotBuffer) (index : Nat) : Except SlotError Nat := do
  b.checkIndex index
  return b.lengths.getD index 0

def bytesAt (b : SlotBuffer) (place count : Nat) : List UInt8 :=
  (List.range' place count).map b.byteAt

def data (b : SlotBuffer) (index : Nat) : Except SlotError (List UInt8) := do
  return b.bytesAt (index * b.stride) (← b.length index)

def verifyGuard (b : SlotBuffer) (index : Nat) : Except SlotError Unit := do
  b.checkIndex index
  let found := b.bytesAt (index * b.stride + b.slotSize) guardBytes.length
  if found = guardBytes then return
  else throw (.guardOverwritten index)

/-- Stops at a damaged guard, since nothing in the buffer can be relied on then. -/
def assertGuard (b : SlotBuffer) (index : Nat) : Except Fault Unit :=
  match b.verifyGuard index with
  | .ok () => .ok ()
  | .error error => .error (.overrun error)

def advance (b : SlotBuffer) : Except Fault SlotBuffer := do
  let next ← b.ring.next b.current
  b.assertGuard b.current
  b.assertGuard next
  return { b with current := next }

end SlotBuffer

end EventFormation
