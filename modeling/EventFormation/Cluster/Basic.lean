import EventFormation.Hit
import EventFormation.Series
import EventFormation.TimeSpan

namespace EventFormation

/-- Hits believed to come from one track in one plane, with bounds and weighted sums kept up to
date. Coordinates and times are uncertain by one unit, so every span counts both of its ends. -/
structure Cluster where
  arrivals : Series Hit := {}
  /-- The plane of all hits, none while there is no hit or once planes were mixed. -/
  plane : Option UInt8 := none
  mixed : Bool := false
  coordStart : UInt16 := 0
  coordEnd : UInt16 := 0
  timeStart : UInt64 := 0
  timeEnd : UInt64 := 0
  weightSum : Float := 0
  coordMass : Float := 0
  timeMass : Float := 0
  deriving Repr, BEq, Inhabited

namespace Cluster

def empty : Cluster := {}

/-- An empty cluster that already owns room for `capacity` hits of 16 bytes. -/
def withCapacity (capacity : Nat) : Except Fault Cluster := do
  checkCapacity capacity 16
  return empty

def hits (c : Cluster) : List Hit := c.arrivals.toList

def isEmpty (c : Cluster) : Bool := c.arrivals.isEmpty

/-- Adds a hit. A hit of another plane is kept, but the cluster has no plane from then on. -/
def insert (c : Cluster) (hit : Hit) : Cluster :=
  let weight := hit.weight.toFloat
  let weightSum := c.weightSum + weight
  let coordMass := c.coordMass + weight * hit.coordinate.toFloat
  let timeMass := c.timeMass + weight * hit.time.toFloat
  if c.isEmpty then
    { arrivals := ({} : Series Hit).push hit, plane := some hit.plane, mixed := false,
      coordStart := hit.coordinate, coordEnd := hit.coordinate,
      timeStart := hit.time, timeEnd := hit.time,
      weightSum, coordMass, timeMass }
  else
    let strange := c.plane != some hit.plane
    { arrivals := c.arrivals.push hit,
      plane := if strange then none else c.plane,
      mixed := c.mixed || strange,
      coordStart := min c.coordStart hit.coordinate, coordEnd := max c.coordEnd hit.coordinate,
      timeStart := min c.timeStart hit.time, timeEnd := max c.timeEnd hit.time,
      weightSum, coordMass, timeMass }

def insertAll (c : Cluster) (hits : List Hit) : Cluster := hits.foldl insert c

def ofHits (hits : List Hit) : Cluster := empty.insertAll hits

/-- Moves all hits of the second cluster behind those of the first. The sums are added up as
wholes. Returns the merged cluster and what is left of the second. -/
def merge (into other : Cluster) : Cluster × Cluster :=
  if other.isEmpty then (into, other)
  else if into.isEmpty then (other, empty)
  else
    let strange := into.plane != other.plane || other.mixed
    ({ arrivals := into.arrivals.append other.hits,
       plane := if strange then none else into.plane,
       mixed := into.mixed || strange,
       coordStart := min into.coordStart other.coordStart,
       coordEnd := max into.coordEnd other.coordEnd,
       timeStart := min into.timeStart other.timeStart,
       timeEnd := max into.timeEnd other.timeEnd,
       weightSum := into.weightSum + other.weightSum,
       coordMass := into.coordMass + other.coordMass,
       timeMass := into.timeMass + other.timeMass },
     empty)

/-- Takes out all hits, and with them all that was kept up to date for them. -/
def clear (c : Cluster) : Cluster :=
  { c with
    arrivals := {}, plane := none, mixed := false
    coordStart := 0, coordEnd := 0, timeStart := 0, timeEnd := 0
    weightSum := 0, coordMass := 0, timeMass := 0 }

def isValid (c : Cluster) : Bool := !c.isEmpty && !c.mixed

def hitCount (c : Cluster) : Nat := c.arrivals.length

def coordSpan (c : Cluster) : Nat :=
  if c.isEmpty then 0 else c.coordEnd.toNat - c.coordStart.toNat + 1

def stretch (c : Cluster) : TimeSpan := ⟨c.timeStart, c.timeEnd⟩

def timeSpan (c : Cluster) : Except Fault Nat :=
  if c.isEmpty then .ok 0 else c.stretch.ticks

/-- Mean coordinate, weighted. Not a number if all weights are zero. -/
def coordCenter (c : Cluster) : Float := c.coordMass / c.weightSum

def timeCenter (c : Cluster) : Float := c.timeMass / c.weightSum

def timeOverlap (a b : Cluster) : Except Fault Nat :=
  if a.isEmpty || b.isEmpty then .ok 0 else a.stretch.overlap b.stretch

/-- Time between the end of the earlier and the start of the later cluster. An empty cluster
is as far away as the clock allows. -/
def timeGap (a b : Cluster) : Nat :=
  if a.isEmpty || b.isEmpty then lastTick else a.stretch.gap b.stretch

theorem isEmpty_iff {c : Cluster} : c.isEmpty ↔ c.hits = [] := by
  simp [isEmpty, hits, Series.isEmpty_eq]

@[simp] theorem hits_empty : empty.hits = [] := rfl

@[simp] theorem hits_insert (c : Cluster) (hit : Hit) : (c.insert hit).hits = c.hits ++ [hit] := by
  unfold insert
  by_cases h : c.isEmpty
  · have none : c.arrivals.toList = [] := isEmpty_iff.mp h
    simp [h, hits, none]
  · simp [h, hits]

@[simp] theorem hits_insertAll (c : Cluster) (hits : List Hit) :
    (c.insertAll hits).hits = c.hits ++ hits := by
  induction hits generalizing c with
  | nil => simp [insertAll]
  | cons hit rest ih => simpa [insertAll] using ih (c.insert hit)

@[simp] theorem hits_ofHits (hits : List Hit) : (ofHits hits).hits = hits := by simp [ofHits]

@[simp] theorem hits_merge_fst (into other : Cluster) :
    (into.merge other).1.hits = into.hits ++ other.hits := by
  unfold merge
  by_cases h : other.isEmpty
  · simp [h, isEmpty_iff.mp h]
  · by_cases g : into.isEmpty
    · simp [h, g, isEmpty_iff.mp g]
    · simp [h, g, hits]

end Cluster

end EventFormation
