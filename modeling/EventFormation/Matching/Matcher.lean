import EventFormation.Matching.Pass

namespace EventFormation

/-- Pairs the clusters of several planes as they come. A cluster is final once every plane has
moved on far enough that no earlier one can arrive. -/
structure Matcher where
  rule : JoinRule
  latency : UInt64
  minimumQueued : Nat
  /-- The tracked planes in output order, and the latest start of a cluster seen on each. -/
  progress : List (UInt8 × UInt64)
  unmatched : List Cluster := []
  events : List Event := []
  eventCount : Nat := 0
  rejected : Nat := 0

namespace Matcher

/-- A matcher with a rule of its own, whatever policy is configured. -/
def ofRule (rule : JoinRule) (config : MatchConfig) : Except ConfigError Matcher := do
  config.check
  return { rule, latency := config.latency, minimumQueued := config.minimumQueued,
           progress := config.planes.map (·, 0) }

def ofConfig (config : MatchConfig) : Except ConfigError Matcher := ofRule config.policy.rule config

def planes (m : Matcher) : List UInt8 := m.progress.map (·.1)

def latest? (m : Matcher) (plane : UInt8) : Option UInt64 :=
  (m.progress.find? (·.1 == plane)).map (·.2)

/-- The time up to which every plane has moved on. -/
def horizon (m : Matcher) : UInt64 := (m.progress.map (·.2)).min?.getD 0

def advance (plane : UInt8) (starts : List UInt64) : List (UInt8 × UInt64) → List (UInt8 × UInt64)
  | [] => []
  | entry :: rest =>
    if entry.1 == plane then (entry.1, starts.foldl max entry.2) :: rest
    else entry :: advance plane starts rest

/-- Queues clusters of one plane. If it is not tracked all of them are rejected, and otherwise
those that are not on it. -/
def insert (m : Matcher) (plane : UInt8) (clusters : List Cluster) : Matcher :=
  if m.planes.contains plane then
    let (own, strange) := clusters.partition fun c => c.plane == some plane
    { m with
      progress := advance plane (own.map (·.timeStart)) m.progress
      unmatched := m.unmatched ++ own
      rejected := m.rejected + strange.length }
  else { m with rejected := m.rejected + clusters.length }

def insertCluster (m : Matcher) (c : Cluster) : Matcher :=
  match c.plane with
  | some plane => m.insert plane [c]
  | none => { m with rejected := m.rejected + 1 }

/-- No plane can still deliver a cluster that ends by the end of this one. -/
def isReady (m : Matcher) (c : Cluster) : Bool :=
  ticksSince c.timeEnd m.horizon > m.latency.toNat

/-- Order of ends. Clusters of one end keep their relative order. -/
def sortByEnd (clusters : List Cluster) : List Cluster :=
  stableSort (fun a b => decide (a.timeEnd ≤ b.timeEnd)) clusters

def longestSpan (clusters : List Cluster) : Except Fault Nat :=
  return (← clusters.mapM Cluster.timeSpan).max?.getD 0

def terms (m : Matcher) (flushing : Bool) (maxSpan : Nat) : Pass.Terms :=
  let horizon := m.horizon
  { rule := m.rule, flushing, maxSpan
    ready := fun c => flushing || ticksSince c.timeEnd horizon > m.latency.toNat }

@[simp] theorem ready_terms (m : Matcher) (flushing : Bool) (maxSpan : Nat) (c : Cluster) :
    (m.terms flushing maxSpan).ready c = (flushing || m.isReady c) := rfl

/-- Matches ready clusters, or all of them. The event that is not complete goes back to the
queue, unless all clusters are to be matched. -/
def matchQueue (m : Matcher) (flushing : Bool) : Except Fault Matcher :=
  if m.unmatched.isEmpty || !flushing && m.unmatched.length < m.minimumQueued then .ok m
  else do
    let queue := sortByEnd m.unmatched
    let maxSpan ← longestSpan queue
    let pass ← Pass.walk (m.terms flushing maxSpan) { queue, event := Event.ofPlanes m.planes }
    let closed := pass.events flushing
    return { m with
      unmatched := pass.remaining flushing
      events := m.events ++ closed
      eventCount := m.eventCount + closed.length
      rejected := m.rejected + pass.refused }

def poll (m : Matcher) : Except Fault Matcher := m.matchQueue false

def flush (m : Matcher) : Except Fault Matcher := m.matchQueue true

def take (m : Matcher) : List Event × Matcher := (m.events, { m with events := [] })

end Matcher

end EventFormation
