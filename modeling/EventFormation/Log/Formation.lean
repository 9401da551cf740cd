import EventFormation.Formation.Builder
import EventFormation.Log
import EventFormation.Text.Display

namespace EventFormation

def rangeText (low high : String) : String := low ++ ".." ++ high

def Cluster.completedRecord (c : Cluster) : LogRecord :=
  ⟨.clusterer, .trace, "stash cluster: hits=" ++ toString c.hitCount ++
    " coord=" ++ rangeText (toString c.coordStart) (toString c.coordEnd) ++
    " time=" ++ rangeText (toString c.timeStart) (toString c.timeEnd)⟩

def Event.closedRecord (e : Event) : LogRecord :=
  ⟨.matcher, .trace, "stash event: time=" ++ rangeText (toString e.timeStart) (toString e.timeEnd) ++
    " hits=" ++ toString e.hitCount⟩

def ReducedHit.text (r : ReducedHit) : String :=
  Text.labelled "ReducedHit"
    [("center", NumeralStyle.report.text r.center), ("uncert_lower", toString r.lower),
     ("uncert_upper", toString r.upper), ("hits_used", toString r.used)]

def ReducedEvent.badRecords (e : ReducedEvent) : List LogRecord :=
  if e.good then []
  else
    let dimensions := e.dimensions.map fun dimension => Text.optional (dimension.map ReducedHit.text)
    [⟨.analyzer, .trace, "bad event at " ++ toString e.time ++ ": " ++ Text.bracketed dimensions⟩]

def FormationStatistics.text (s : FormationStatistics) : String :=
  Text.labelled "FormationStatistics" (s.counters.map fun counter => (counter.1, toString counter.2))

namespace Clusterer

def flushLog (c : Clusterer) : List LogRecord := c.completed.map Cluster.completedRecord

def insertLog (c : Clusterer) (hit : Hit) : List LogRecord :=
  if c.startsGroup hit then c.flushLog else []

def insertAllLog : Clusterer → List Hit → List LogRecord
  | _, [] => []
  | c, hit :: rest => c.insertLog hit ++ insertAllLog (c.insert hit) rest

end Clusterer

namespace Matcher

def insertLog (m : Matcher) (plane : UInt8) (clusters : List Cluster) : List LogRecord :=
  if m.planes.contains plane || clusters.isEmpty then []
  else [⟨.matcher, .debug, "rejecting " ++ toString clusters.length ++
    " clusters from untracked plane " ++ toString plane⟩]

def insertClusterLog (m : Matcher) (c : Cluster) : List LogRecord :=
  match c.plane with
  | some plane => m.insertLog plane [c]
  | none => []

/-- What is logged in the course of matching, up to a later state. -/
def matchLog (m later : Matcher) : List LogRecord :=
  (later.events.drop m.events.length).map Event.closedRecord

end Matcher

namespace EventBuilder

def insertLog (b : EventBuilder) (hit : Hit) : List LogRecord :=
  match b.clusterers.find? (·.1 == hit.plane) with
  | some (_, c) => c.insertLog hit
  | none => []

def insertAllLog : EventBuilder → List Hit → List LogRecord
  | _, [] => []
  | b, hit :: rest => b.insertLog hit ++ insertAllLog (b.insert hit) rest

def reduceLog (b : EventBuilder) (reduced : List ReducedEvent) : List LogRecord :=
  b.matcher.events.map Event.closedRecord ++ reduced.flatMap ReducedEvent.badRecords

def processLog (b : EventBuilder) : Except Fault (List LogRecord) := do
  let matched ← b.pollMatcher
  return matched.reduceLog (← matched.reduceEvents).1

def pushLog (b : EventBuilder) (hits : List Hit) : Except Fault (List LogRecord) :=
  return b.insertAllLog hits ++ (← (b.insertAll hits).processLog)

def flushLog (b : EventBuilder) : Except Fault (List LogRecord) := do
  let matched ← b.flushMatcher
  let (reduced, after) ← matched.reduceEvents
  let summary := "flushed " ++ toString reduced.length ++ " events, totals: " ++ after.statistics.text
  return b.clusterers.flatMap (·.2.flushLog) ++ matched.reduceLog reduced ++
    [⟨.processing, .debug, summary⟩]

end EventBuilder

end EventFormation
