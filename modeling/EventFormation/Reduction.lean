import EventFormation.Config.Basic

namespace EventFormation

/-- What one plane of an event comes down to. -/
structure ReducedHit where
  /-- The estimated position, not a number if there is none. -/
  center : Float := 0.0 / 0.0
  /-- Span of the coordinates that the center is taken from. -/
  lower : Nat := 0
  /-- Span of the coordinates in the last moments of the track. -/
  upper : Nat := 0
  used : Nat := 0
  deriving Repr, Inhabited

namespace ReducedHit

def isGood (r : ReducedHit) : Bool := r.center.isFinite && r.center ≥ 0

def maxRounded : Nat := 4294967295

/-- The center to the nearest whole coordinate. Halves are rounded up. -/
def rounded? (r : ReducedHit) : Option Nat :=
  if !r.isGood || r.center > maxRounded.toUInt64.toFloat then none
  else
    let below := r.center.toUInt64
    some (if r.center - below.toFloat ≥ 0.5 then below.toNat + 1 else below.toNat)

end ReducedHit

/-- The result of one event. Tracked planes are the dimensions, in their order. -/
structure ReducedEvent where
  x : Option ReducedHit := none
  y : Option ReducedHit := none
  z : Option ReducedHit := none
  time : UInt64 := 0
  /-- Every tracked plane has a good center. -/
  good : Bool := false
  deriving Repr, Inhabited

namespace ReducedEvent

def dimensions (e : ReducedEvent) : List (Option ReducedHit) := [e.x, e.y, e.z]

def hasDimension (e : ReducedEvent) (index : Nat) : Bool := index < e.dimensions.length

def hitsUsed (e : ReducedEvent) : Except Fault Nat :=
  (e.dimensions.filterMap id).foldlM (fun sum r => checkedSum sum r.used) 0

end ReducedEvent

def coordinateSpan (hits : List Hit) : Nat :=
  match (hits.map (·.coordinate)).min?, (hits.map (·.coordinate)).max? with
  | some low, some high => high.toNat - low.toNat + 1
  | _, _ => 0

namespace Selection

def of (selection : Selection) (hits : List Hit) : List Hit :=
  match selection with
  | maxWeight =>
    let heaviest := (hits.map (·.weight)).max?
    hits.filter fun hit => some hit.weight == heaviest
  | latestTime =>
    let latest := (hits.map (·.time)).max?
    hits.filter fun hit => some hit.time == latest
  | all => hits

end Selection

def sumOf (values : List Float) : Float := values.foldl (· + ·) 0

namespace ReductionConfig

def name (config : ReductionConfig) : String :=
  match config.selection with
  | .maxWeight => "MaxWeight"
  | .latestTime => "uTPC"
  | .all => "CenterOfMass"

/-- The mean coordinate, not a number if no hit has weight. -/
def center (config : ReductionConfig) (selected : List Hit) : Float :=
  let weightSum := sumOf (selected.map (·.weight.toFloat))
  if weightSum ≤ 0 then 0.0 / 0.0
  else if config.weighted then
    sumOf (selected.map fun hit => hit.weight.toFloat * hit.coordinate.toFloat) / weightSum
  else
    sumOf (selected.map (·.coordinate.toFloat)) / selected.length.toUInt64.toFloat

/-- Walks back in time over hits that are given latest first, until a hit is too early or has one
distinct time too many. Equal times follow each other, so a time is new if the hit taken last has
another one. -/
def windowFrom (maxTimebins : Nat) (earliest : UInt64) (taken : Series Hit) (times : Nat) :
    List Hit → Series Hit
  | [] => taken
  | hit :: rest =>
    if hit.time < earliest then taken
    else if taken.last?.any (·.time == hit.time) then
      windowFrom maxTimebins earliest (taken.push hit) times rest
    else if times ≥ maxTimebins then taken
    else windowFrom maxTimebins earliest (taken.push hit) (times + 1) rest

def window (config : ReductionConfig) (c : Cluster) : List Hit :=
  let earliest := c.timeEnd.toNat - config.maxTimedif.toNat
  (windowFrom config.maxTimebins earliest.toUInt64 {} 0 (Hit.sortByTime c.hits).reverse).toList

/-- Reduces one cluster. The times of the window are kept in a block made for all of them. -/
def reduceCluster (config : ReductionConfig) (c : Cluster) : Except Fault ReducedHit := do
  if c.isEmpty then return {}
  checkCapacity config.maxTimebins 8
  let selected := config.selection.of c.hits
  return { center := config.center selected
           lower := coordinateSpan selected
           upper := coordinateSpan (config.window c)
           used := selected.length }

/-- The dimension of one plane. A plane without hits has no center. -/
def reducePlane (config : ReductionConfig) (event : Event) (plane : UInt8) : Except Fault ReducedHit :=
  match event.cluster? plane with
  | some c => config.reduceCluster c
  | none => .ok {}

/-- Reduces an event. It is good if there is a plane and all planes have good centers. -/
def reduce (config : ReductionConfig) (event : Event) : Except Fault ReducedEvent := do
  let dimensions ← event.planes.mapM (config.reducePlane event)
  return { x := dimensions[0]?, y := dimensions[1]?, z := dimensions[2]?
           time := event.timeStart
           good := !dimensions.isEmpty && dimensions.all ReducedHit.isGood }

end ReductionConfig

end EventFormation
