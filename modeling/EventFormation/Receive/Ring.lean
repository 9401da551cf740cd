import EventFormation.Fault

namespace EventFormation

/-- A number of positions that are used in turn. -/
structure Ring where
  size : Nat
  size_pos : 0 < size
  deriving Repr, DecidableEq

namespace Ring

def ofSize? (size : Nat) : Option Ring := if h : 0 < size then some ⟨size, h⟩ else none

/-- The position of a cursor that only ever grows. -/
def position (r : Ring) (cursor : Nat) : Nat := cursor % r.size

def contains (r : Ring) (index : Nat) : Bool := index < r.size

def next (r : Ring) (index : Nat) : Except Fault Nat := return r.position (← checkedSum index 1)

theorem position_lt (r : Ring) (cursor : Nat) : r.position cursor < r.size :=
  Nat.mod_lt cursor r.size_pos

end Ring

end EventFormation
