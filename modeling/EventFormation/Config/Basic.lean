import EventFormation.Event
import EventFormation.Decimal.Style
import EventFormation.Text.Display

namespace EventFormation

/-- Gaps at which hits of one plane are taken apart. -/
structure ClusterConfig where
  /-- Largest time between consecutive hits of one time-group. -/
  maxTimeGap : UInt64 := 200
  /-- Largest distance between neighbouring coordinates of one cluster. -/
  maxCoordGap : UInt16 := 2
  deriving Repr, DecidableEq

/-- The single time attributed to a cluster. -/
inductive ClusterTime
  | centerOfMass
  | latestHit
  deriving Repr, DecidableEq

/-- When a cluster belongs to the event being built. -/
inductive MatchPolicy
  /-- The ends lie at most `maxDelta` apart. -/
  | endProximity (maxDelta : UInt64)
  /-- Enough of both is shared. Off the first plane, a gap of at most `maxGap` will do too. -/
  | overlapFraction (threshold : Float) (maxGap : UInt64)
  /-- The gap is at most `maxGap`. -/
  | gapProximity (maxGap : UInt64)
  /-- The times of all clusters lie within `maxDelta`, and no plane has two clusters. -/
  | centerProximity (maxDelta : UInt64) (clusterTime : ClusterTime)
  deriving Repr

/-- How clusters of several planes are paired. -/
structure MatchConfig where
  /-- Tracked planes. Their order is that of the output dimensions. -/
  planes : List UInt8 := [0, 1]
  /-- Time that every plane must be ahead of a cluster before it is final. -/
  latency : UInt64 := 0
  policy : MatchPolicy := .endProximity 200
  /-- Fewer clusters than this stay queued, unless all are to be matched. -/
  minimumQueued : Nat := 3
  deriving Repr

/-- The hits of a cluster that count for its center. -/
inductive Selection
  | maxWeight
  | latestTime
  | all
  deriving Repr, DecidableEq

/-- How an event is reduced to coordinates. -/
structure ReductionConfig where
  weighted : Bool := true
  /-- Number of distinct times in the window of the upper uncertainty. -/
  maxTimebins : Nat := 3
  /-- Width of that window, counted back from the latest hit. -/
  maxTimedif : UInt64 := 7
  selection : Selection := .maxWeight
  deriving Repr, DecidableEq

structure FormationConfig where
  clusters : ClusterConfig := {}
  matching : MatchConfig := {}
  reduction : ReductionConfig := {}
  deriving Repr

/-- The shape of generated tracks. -/
structure GeneratorConfig where
  planes : List UInt8 := [0, 1]
  events : Nat := 1000
  /-- Ticks between the starts of events. -/
  spacing : UInt64 := 1000
  trackLength : UInt16 := 4
  coordinates : UInt16 := 256
  maxWeight : UInt16 := 1000
  seed : UInt64 := 24301
  deriving Repr, DecidableEq

/-- What happens to queued datagrams on a stop request. -/
inductive ShutdownMode
  | drain
  | immediate
  deriving Repr, DecidableEq

/-- Where and into how many slots datagrams are received. -/
structure ReceiveConfig where
  bind : String := "0.0.0.0:9000"
  slots : Nat := 2000
  slotSize : Nat := 9000
  timeoutMs : UInt64 := 100
  shutdown : ShutdownMode := .drain
  deriving Repr, DecidableEq

/-- What a configuration is refused for. -/
inductive ConfigError
  | noPlanes
  | tooManyPlanes (count : Nat)
  | duplicatePlane (plane : UInt8)
  | reservedPlane
  | unusableThreshold (threshold : Float)
  | noTimebins
  | tooFewSlots (slots : Nat)
  | noSlotSize
  | noTimeout
  deriving Repr

namespace ConfigError

/-- Fewest slots of a receive channel: one is being filled, one being read, one queued. -/
def minSlots : Nat := 3

/-- The parameter out of its range, and what is wrong with its value. -/
def parameter? : ConfigError → Option (String × String)
  | reservedPlane => some ("planes", toString Hit.reservedPlane ++ " is reserved")
  | unusableThreshold threshold =>
    some ("overlap_threshold",
      NumeralStyle.field.text threshold ++ " is not a finite non-negative number")
  | noTimebins => some ("max_timebins", "must be at least 1")
  | tooFewSlots slots =>
    some ("slots", "at least " ++ toString minSlots ++ " required, got " ++ toString slots)
  | noSlotSize => some ("slot_size", "must be positive")
  | noTimeout => some ("timeout_ms", "must be positive")
  | noPlanes | tooManyPlanes _ | duplicatePlane _ => none

def message (e : ConfigError) : String :=
  match e.parameter? with
  | some (name, reason) => "invalid value for " ++ name ++ ": " ++ reason
  | none =>
    match e with
    | tooManyPlanes count =>
      "at most " ++ toString Event.maxPlanes ++ " planes can be tracked, got " ++ toString count
    | duplicatePlane plane => "plane " ++ toString plane ++ " listed more than once"
    | _ => "at least one plane must be tracked"

def details (e : ConfigError) : String :=
  match e.parameter? with
  | some (name, reason) =>
    Text.labelled "InvalidValue" [("name", Text.quoted name), ("reason", Text.quoted reason)]
  | none =>
    match e with
    | tooManyPlanes count =>
      Text.labelled "TooManyPlanes" [("max", toString Event.maxPlanes), ("got", toString count)]
    | duplicatePlane plane => Text.applied "DuplicatePlane" (toString plane)
    | _ => "NoPlanes"

def setupMessage (e : ConfigError) : String := "configuration error: " ++ e.message

end ConfigError

/-- Each plane in turn must be a detector plane and stand for the first time. -/
def MatchConfig.checkPlanes : List UInt8 → List UInt8 → Except ConfigError Unit
  | _, [] => .ok ()
  | seen, plane :: rest =>
    if plane == Hit.reservedPlane then .error .reservedPlane
    else if seen.contains plane then .error (.duplicatePlane plane)
    else checkPlanes (plane :: seen) rest

def MatchPolicy.check : MatchPolicy → Except ConfigError Unit
  | overlapFraction threshold _ =>
    if !threshold.isFinite || threshold < 0 then .error (.unusableThreshold threshold) else .ok ()
  | _ => .ok ()

def MatchConfig.check (c : MatchConfig) : Except ConfigError Unit :=
  if c.planes.isEmpty then .error .noPlanes
  else if c.planes.length > Event.maxPlanes then .error (.tooManyPlanes c.planes.length)
  else do
    checkPlanes [] c.planes
    c.policy.check

def ReductionConfig.check (c : ReductionConfig) : Except ConfigError Unit :=
  if c.maxTimebins = 0 then .error .noTimebins else .ok ()

/-- Checks the matching, then the reduction. Any clustering is possible. -/
def FormationConfig.check (c : FormationConfig) : Except ConfigError Unit := do
  c.matching.check
  c.reduction.check

def FormationConfig.planes (c : FormationConfig) : List UInt8 := c.matching.planes

def ReceiveConfig.check (c : ReceiveConfig) : Except ConfigError Unit :=
  if c.slots < ConfigError.minSlots then .error (.tooFewSlots c.slots)
  else if c.slotSize = 0 then .error .noSlotSize
  else if c.timeoutMs = 0 then .error .noTimeout
  else .ok ()

end EventFormation
