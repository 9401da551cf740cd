import EventFormation.Decimal.Style
import EventFormation.Reduction

namespace EventFormation

/-- Events as lines of comma-separated fields. -/
structure EventTable where
  written : Series String := {}
  deriving Repr, DecidableEq

namespace EventTable

def header : String := "x,y,z,time,good,hits_used,x_lower,x_upper,y_lower,y_upper,z_lower,z_upper"

/-- A field for the center. It is empty if the dimension does not exist. -/
def centerField (dimension : Option ReducedHit) : String :=
  match dimension with
  | some r => NumeralStyle.field.text r.center
  | none => ""

def spanFields (dimension : Option ReducedHit) : List String :=
  match dimension with
  | some r => [toString r.lower, toString r.upper]
  | none => ["", ""]

def row (event : ReducedEvent) : Except Fault String := do
  let used ← event.hitsUsed
  let fields := event.dimensions.map centerField ++
    [toString event.time, if event.good then "1" else "0", toString used] ++
    event.dimensions.flatMap spanFields
  return ",".intercalate fields

def empty : EventTable := {}

def lines (t : EventTable) : List String := t.written.toList

def add (t : EventTable) (event : ReducedEvent) : Except Fault EventTable :=
  return ⟨t.written.push (← row event)⟩

def addAll (t : EventTable) (events : List ReducedEvent) : Except Fault EventTable :=
  return ⟨t.written.append (← events.mapM row)⟩

def rows (t : EventTable) : Nat := t.written.length

/-- The whole table, with a line of names above it. -/
def text (t : EventTable) : String := String.join ((header :: t.lines).map (· ++ "\n"))

end EventTable

end EventFormation
