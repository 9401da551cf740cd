import EventFormation.Config.Reading
import EventFormation.Json.Printer

namespace EventFormation

open Json

def Json.Choice.content {α : Type} [DecidableEq α] (choice : Choice α) (value : α) : Content :=
  match choice.names.find? fun entry => entry.2 = value with
  | some (name, _) => .text name
  | none => .null

/-- A double, if it is finite. JSON has no others. -/
def finiteContent (x : Float) : Content := if x.isFinite then .number (.float x) else .null

def planesContent (planes : List UInt8) : Content := .list (planes.map fun p => .natural p.toNat)

def ClusterConfig.content (c : ClusterConfig) : Content :=
  .object [("max_time_gap", .natural c.maxTimeGap.toNat), ("max_coord_gap", .natural c.maxCoordGap.toNat)]

def MatchPolicy.content : MatchPolicy → Content
  | endProximity maxDelta => .object [("kind", .text "end"), ("max_delta_time", .natural maxDelta.toNat)]
  | overlapFraction threshold maxGap =>
    .object [("kind", .text "overlap"), ("overlap_threshold", finiteContent threshold),
             ("max_gap", .natural maxGap.toNat)]
  | gapProximity maxGap => .object [("kind", .text "gap"), ("minimum_time_gap", .natural maxGap.toNat)]
  | centerProximity maxDelta clusterTime =>
    .object [("kind", .text "center"), ("max_delta_time", .natural maxDelta.toNat),
             ("time_algorithm", ClusterTime.choice.content clusterTime)]

def MatchConfig.content (c : MatchConfig) : Content :=
  .object [("planes", planesContent c.planes), ("latency", .natural c.latency.toNat),
           ("policy", c.policy.content), ("minimum_queued", .natural c.minimumQueued)]

def ReductionConfig.content (c : ReductionConfig) : Content :=
  .object [("weighted", .boolean c.weighted), ("max_timebins", .natural c.maxTimebins),
           ("max_timedif", .natural c.maxTimedif.toNat), ("selection", Selection.choice.content c.selection)]

def FormationConfig.content (c : FormationConfig) : Content :=
  .object [("clusterer", c.clusters.content), ("matcher", c.matching.content),
           ("analyzer", c.reduction.content)]

def GeneratorConfig.content (c : GeneratorConfig) : Content :=
  .object [("planes", planesContent c.planes), ("events", .natural c.events),
           ("spacing", .natural c.spacing.toNat), ("track_length", .natural c.trackLength.toNat),
           ("coordinates", .natural c.coordinates.toNat), ("max_weight", .natural c.maxWeight.toNat),
           ("seed", .natural c.seed.toNat)]

def ReceiveConfig.content (c : ReceiveConfig) : Content :=
  .object [("bind", .text c.bind), ("slots", .natural c.slots), ("slot_size", .natural c.slotSize),
           ("timeout_ms", .natural c.timeoutMs.toNat), ("shutdown", ShutdownMode.choice.content c.shutdown)]

end EventFormation
