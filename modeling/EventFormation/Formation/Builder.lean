import EventFormation.Clusterer
import EventFormation.Matching.Matcher
import EventFormation.Reduction

namespace EventFormation

/-- What a formation has done so far. -/
structure FormationStatistics where
  hits : Nat := 0
  rejectedHits : Nat := 0
  clusters : Nat := 0
  events : Nat := 0
  goodEvents : Nat := 0
  badEvents : Nat := 0
  deriving Repr, DecidableEq

def FormationStatistics.count (s : FormationStatistics) (reduced : List ReducedEvent) :
    FormationStatistics :=
  let good := reduced.countP (·.good)
  { s with
    events := s.events + reduced.length
    goodEvents := s.goodEvents + good
    badEvents := s.badEvents + (reduced.length - good) }

/-- The counters with the names under which they are reported. -/
def FormationStatistics.counters (s : FormationStatistics) : List (String × Nat) :=
  [("hits", s.hits), ("rejected_hits", s.rejectedHits), ("clusters", s.clusters),
   ("events", s.events), ("good_events", s.goodEvents), ("bad_events", s.badEvents)]

/-- Forms the events of a detector as its hits come: each plane has a clusterer, whose clusters
are matched and the events reduced. -/
structure EventBuilder where
  clusterers : List (UInt8 × Clusterer)
  matcher : Matcher
  reduction : ReductionConfig
  statistics : FormationStatistics := {}

namespace EventBuilder

def ofConfig (config : FormationConfig) : Except ConfigError EventBuilder := do
  config.check
  return { clusterers := config.planes.map fun plane => (plane, { config := config.clusters })
           matcher := ← Matcher.ofConfig config.matching
           reduction := config.reduction }

/-- Adds a hit to the first clusterer of its plane. -/
def insertInto (hit : Hit) : List (UInt8 × Clusterer) → List (UInt8 × Clusterer)
  | [] => []
  | entry :: rest =>
    if entry.1 == hit.plane then (entry.1, entry.2.insert hit) :: rest
    else entry :: insertInto hit rest

def tracks (b : EventBuilder) (plane : UInt8) : Bool := b.clusterers.any (·.1 == plane)

/-- Adds a hit, unless its plane is not tracked. -/
def insert (b : EventBuilder) (hit : Hit) : EventBuilder :=
  if b.tracks hit.plane then
    { b with
      clusterers := insertInto hit b.clusterers
      statistics := { b.statistics with hits := b.statistics.hits + 1 } }
  else
    { b with statistics := { b.statistics with rejectedHits := b.statistics.rejectedHits + 1 } }

def insertAll (b : EventBuilder) (hits : List Hit) : EventBuilder := hits.foldl insert b

/-- Hands completed clusters on to be matched, plane after plane. -/
def moveClusters (b : EventBuilder) : EventBuilder :=
  { b with
    clusterers := b.clusterers.map fun (plane, c) => (plane, c.take.2)
    matcher := b.clusterers.foldl (fun m (plane, c) => m.insert plane c.clusters) b.matcher
    statistics := { b.statistics with
      clusters := b.statistics.clusters + (b.clusterers.flatMap (·.2.clusters)).length } }

def reduceEvents (b : EventBuilder) : Except Fault (List ReducedEvent × EventBuilder) := do
  let (events, matcher) := b.matcher.take
  let reduced ← events.mapM b.reduction.reduce
  return (reduced, { b with matcher, statistics := b.statistics.count reduced })

def flushClusterers (b : EventBuilder) : EventBuilder :=
  { b with clusterers := b.clusterers.map fun (plane, c) => (plane, c.flush) }

/-- Hands completed clusters on and matches what is final. -/
def pollMatcher (b : EventBuilder) : Except Fault EventBuilder := do
  let b := b.moveClusters
  return { b with matcher := ← b.matcher.poll }

/-- Completes all clusters, hands them on and matches everything. -/
def flushMatcher (b : EventBuilder) : Except Fault EventBuilder := do
  let b := b.flushClusterers.moveClusters
  return { b with matcher := ← b.matcher.flush }

def process (b : EventBuilder) : Except Fault (List ReducedEvent × EventBuilder) := do
  (← b.pollMatcher).reduceEvents

def push (b : EventBuilder) (hits : List Hit) : Except Fault (List ReducedEvent × EventBuilder) :=
  (b.insertAll hits).process

def flush (b : EventBuilder) : Except Fault (List ReducedEvent × EventBuilder) := do
  (← b.flushMatcher).reduceEvents

end EventBuilder

/-- The clusters of the hits of a plane, which may come in any order. -/
def planeClusters (config : FormationConfig) (hits : List Hit) (plane : UInt8) : List Cluster :=
  Clusterer.clustersOf config.clusters (Hit.sortByTime (hits.filter fun hit => hit.plane == plane))

/-- Forms and reduces the events of a whole collection of hits, in any order. -/
def formEvents (config : FormationConfig) (hits : List Hit) :
    Except ConfigError (Except Fault (List ReducedEvent)) := do
  config.check
  let matcher ← Matcher.ofConfig config.matching
  let filled := config.planes.foldl
    (fun m plane => m.insert plane (planeClusters config hits plane)) matcher
  return do
    let matched ← filled.flush
    matched.events.mapM config.reduction.reduce

end EventFormation
