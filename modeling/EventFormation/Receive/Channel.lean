import EventFormation.Receive.HandoffQueue
import EventFormation.Receive.SlotBuffer

namespace EventFormation

/-- Hands datagrams from a receiver to a reader. The receiver fills the slot at its cursor and
queues its index. At most `slots - 2` indices are queued, so that slot is neither queued nor the
one taken last. -/
structure Channel where
  buffer : SlotBuffer
  queue : HandoffQueue Nat
  cursor : Nat := 0
  deriving Repr

inductive Received
  | /-- Nothing came. -/ empty
  | /-- So many bytes were queued. -/ queued (bytes : Nat)
  | /-- So many bytes came but the queue was full. -/ dropped (bytes : Nat)
  deriving Repr, DecidableEq

structure Datagram where
  index : Nat
  data : List UInt8
  deriving Repr, DecidableEq

/-- What a receiver puts at the start of a slot, and how many bytes it says it received. -/
structure Delivery where
  bytes : List UInt8
  length : Nat
  deriving Repr, DecidableEq

/-- What a receiver does with a slot: the bytes it puts at its start, then how many bytes it says it
received, or why it failed. -/
structure Reception (ε : Type) where
  bytes : List UInt8
  outcome : Except ε Nat

def Delivery.reception {ε : Type} : Except ε Delivery → Reception ε
  | .error error => ⟨[], .error error⟩
  | .ok delivery => ⟨delivery.bytes, .ok delivery.length⟩

namespace Channel

/-- Slots that are not in the queue: the one being filled and the one being read. -/
def reservedSlots : Nat := 2

def allocate (slots slotSize : Nat) : Except SlotError (Except Fault Channel) :=
  match Ring.ofSize? (slots - reservedSlots) with
  | none => .error (.invalidGeometry slots slotSize)
  | some capacity => do
    let buffer ← SlotBuffer.allocate slots slotSize
    return do return { buffer := ← buffer, queue := ← HandoffQueue.ofRing capacity }

def slotSize (c : Channel) : Nat := c.buffer.slotSize

def queued (c : Channel) : Nat := c.queue.length

def setLength (c : Channel) (length : Nat) : Except Fault SlotBuffer :=
  match c.buffer.setLength c.cursor length with
  | .ok buffer => .ok buffer
  | .error error => .error (.misreported error)

/-- Queues the slot at the cursor. If the queue is full the slot is used again. -/
def handOver (c : Channel) (length : Nat) : Except Fault (Received × Channel) := do
  let buffer ← c.setLength length
  let next ← c.buffer.ring.next c.cursor
  buffer.assertGuard c.cursor
  buffer.assertGuard next
  match c.queue.push c.cursor with
  | some queue => return (.queued length, { buffer, queue, cursor := next })
  | none => return (.dropped length, { c with buffer })

/-- Lets a receiver fill the slot at the cursor. What it has put there stays even if it fails, but
the slot is used again. -/
def receive {ε : Type} (c : Channel) (reception : Reception ε) :
    Except Fault (Except ε Received × Channel) :=
  match c.buffer.write c.cursor 0 reception.bytes with
  | .error error => .error (.misreported error)
  | .ok buffer =>
    match reception.outcome with
    | .error error => .ok (.error error, { c with buffer })
    | .ok length =>
      if length = 0 then .ok (.ok .empty, { c with buffer })
      else do
        let (received, c) ← { c with buffer }.handOver length
        return (.ok received, c)

/-- Receives from one that is told the size of the slot. If it fails nothing changes. -/
def receiveWith {ε : Type} (c : Channel) (receive : Nat → Except ε Delivery) :
    Except Fault (Except ε (Received × Channel)) := do
  let (outcome, after) ← c.receive (Delivery.reception (receive c.slotSize))
  return outcome.map (·, after)

/-- Puts a payload into the slot at the cursor, if it fits. -/
def send (c : Channel) (payload : List UInt8) : Except Fault (Except SlotError (Received × Channel)) :=
  c.receiveWith fun size =>
    if payload.length ≤ size then .ok ⟨payload, payload.length⟩
    else .error (.lengthExceedsCapacity c.cursor payload.length size)

def pop (c : Channel) : Option (Datagram × Channel) :=
  match c.queue.pop with
  | none => none
  | some (index, queue) =>
    let length := c.buffer.lengths.getD index 0
    some (⟨index, c.buffer.bytesAt (index * c.buffer.stride) length⟩, { c with queue })

end Channel

end EventFormation
