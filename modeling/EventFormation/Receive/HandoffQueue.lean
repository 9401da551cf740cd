import EventFormation.Receive.Ring

namespace EventFormation

/-- A queue over a fixed number of cells. Both cursors count operations, modulo the size of a
word, and their difference is the number of values queued. -/
structure HandoffQueue (α : Type) where
  ring : Ring
  cells : Array (Option α)
  write : UInt64 := 0
  read : UInt64 := 0
  deriving Repr

namespace HandoffQueue

variable {α : Type}

/-- An empty queue for at most as many values of 8 bytes as the ring has positions. -/
def ofRing (ring : Ring) : Except Fault (HandoffQueue α) := do
  checkCapacity ring.size 8
  return { ring, cells := Array.replicate ring.size none }

def capacity (q : HandoffQueue α) : Nat := q.ring.size

def length (q : HandoffQueue α) : Nat := (q.write - q.read).toNat

def isEmpty (q : HandoffQueue α) : Bool := q.length == 0

def isFull (q : HandoffQueue α) : Bool := q.length ≥ q.capacity

/-- Adds a value, unless the queue is full. -/
def push (q : HandoffQueue α) (value : α) : Option (HandoffQueue α) :=
  if q.isFull then none
  else some { q with
    cells := q.cells.setIfInBounds (q.ring.position q.write.toNat) (some value)
    write := q.write + 1 }

/-- Takes the oldest value. Its cell is free from then on. -/
def pop (q : HandoffQueue α) : Option (α × HandoffQueue α) :=
  if q.read == q.write then none
  else
    match q.cells[q.ring.position q.read.toNat]? with
    | some (some value) => some (value, { q with read := q.read + 1 })
    | _ => none

end HandoffQueue

end EventFormation
