import EventFormation.Config.Basic

namespace EventFormation

/-- Decides whether a cluster joins a non-empty event. -/
structure JoinRule where
  /-- Distance of a cluster to an event, none if it does not belong. -/
  proximity : Event → Cluster → Except Fault (Option Float)
  /-- Latest end of a cluster that could belong to an event, given the longest span of any
  cluster. -/
  reach : Event → Nat → Nat

namespace JoinRule

def belongs (rule : JoinRule) (event : Event) (c : Cluster) : Except Fault Bool :=
  return (← rule.proximity event c).isSome

end JoinRule

def ticksFloat (ticks : Nat) : Float := ticks.toUInt64.toFloat

/-- Shared ticks as a part of the cluster plus as a part of the event, zero if they are disjoint
and two if they are the same. -/
def Event.overlapFraction (event : Event) (c : Cluster) : Except Fault Float := do
  let shared ← event.timeOverlap c
  if shared = 0 then return 0
  let part := ticksFloat (← c.timeSpan)
  let whole := ticksFloat (← event.timeSpan)
  return ticksFloat shared / part + ticksFloat shared / whole

def ClusterTime.of (time : ClusterTime) (c : Cluster) : Float :=
  match time with
  | centerOfMass => c.timeCenter
  | latestHit => c.timeEnd.toFloat

/-- The largest of some distances, unless one of them is over the limit or not a number. -/
def largestWithin (limit : Float) : Float → List Float → Option Float
  | worst, [] => some worst
  | worst, delta :: rest =>
    if delta.isNaN || delta > limit then none
    else largestWithin limit (if worst < delta then delta else worst) rest

namespace MatchPolicy

def name : MatchPolicy → String
  | endProximity _ => "EndProximity"
  | overlapFraction _ _ => "OverlapFraction"
  | gapProximity _ => "GapProximity"
  | centerProximity _ _ => "CenterProximity"

/-- Overlapping clusters come before those that are only near, and the more they overlap the
sooner. Clusters of the first plane must overlap. -/
def overlapProximity (threshold : Float) (maxGap : UInt64) (event : Event) (c : Cluster) :
    Except Fault (Option Float) := do
  let fraction ← event.overlapFraction c
  if fraction > 0 && fraction > threshold then return some (2 - fraction)
  let gap := event.timeGap c
  if c.plane != event.planes.head? && gap ≤ maxGap.toNat then return some (2 + ticksFloat gap)
  return none

def centerDistance (maxDelta : UInt64) (clusterTime : ClusterTime) (event : Event) (c : Cluster) :
    Option Float :=
  match c.plane with
  | none => none
  | some plane =>
    if (event.cluster? plane).isSome then none
    else
      let time := clusterTime.of c
      largestWithin maxDelta.toFloat 0
        (event.populated.map fun slot => (clusterTime.of slot.2 - time).abs)

def proximity (policy : MatchPolicy) (event : Event) (c : Cluster) : Except Fault (Option Float) :=
  match policy with
  | endProximity maxDelta =>
    let delta := ticksApart event.timeEnd c.timeEnd
    .ok (if delta ≤ maxDelta.toNat then some (ticksFloat delta) else none)
  | overlapFraction threshold maxGap => overlapProximity threshold maxGap event c
  | gapProximity maxGap =>
    let gap := event.timeGap c
    .ok (if gap ≤ maxGap.toNat then some (ticksFloat gap) else none)
  | centerProximity maxDelta clusterTime => .ok (centerDistance maxDelta clusterTime event c)

/-- A cluster that starts within the distance of the event can end as much later as it is long,
but the end policy compares the ends themselves. -/
def reach (policy : MatchPolicy) (event : Event) (maxSpan : Nat) : Nat :=
  match policy with
  | endProximity maxDelta => readingAfter event.timeEnd maxDelta.toNat
  | overlapFraction _ maxGap => readingAfter event.timeEnd (maxGap.toNat + maxSpan)
  | gapProximity maxGap => readingAfter event.timeEnd (maxGap.toNat + maxSpan)
  | centerProximity maxDelta _ => readingAfter event.timeEnd (maxDelta.toNat + maxSpan)

def rule (policy : MatchPolicy) : JoinRule := ⟨policy.proximity, policy.reach⟩

end MatchPolicy

end EventFormation
