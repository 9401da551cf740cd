import EventFormation.Config.Basic

namespace EventFormation

/-- Clusters the hits of one plane as they come. -/
structure Clusterer where
  config : ClusterConfig
  /-- Hits of the open time-group, which a hit that comes late may still join. -/
  arrivals : Series Hit := {}
  finished : Series Cluster := {}
  hitsProcessed : Nat := 0
  clustersFound : Nat := 0
  deriving Repr

namespace Clusterer

def group (c : Clusterer) : List Hit := c.arrivals.toList

def clusters (c : Clusterer) : List Cluster := c.finished.toList

/-- Adds hits in coordinate order to the current cluster, which a gap ends. -/
def splitAtGap (maxGap : UInt16) (done : Series Cluster) (current : Cluster) : List Hit → Series Cluster
  | [] => if current.isEmpty then done else done.push current
  | hit :: rest =>
    if !current.isEmpty && hit.coordinate.toNat - current.coordEnd.toNat > maxGap.toNat then
      splitAtGap maxGap (done.push current) (Cluster.empty.insert hit) rest
    else splitAtGap maxGap done (current.insert hit) rest

def groupClusters (maxGap : UInt16) (group : List Hit) : List Cluster :=
  (splitAtGap maxGap {} Cluster.empty (Hit.sortByCoordinate group)).toList

/-- Whether a hit comes too late for the open time-group. A step back in time never does. -/
def startsGroup (c : Clusterer) (hit : Hit) : Bool :=
  match c.arrivals.last? with
  | none => false
  | some last => ticksSince last.time hit.time > c.config.maxTimeGap.toNat

def completed (c : Clusterer) : List Cluster := groupClusters c.config.maxCoordGap c.group

def flush (c : Clusterer) : Clusterer :=
  let completed := c.completed
  { c with
    arrivals := {}
    finished := c.finished.append completed
    clustersFound := c.clustersFound + completed.length }

/-- Adds a hit to the open time-group, which is ended before if the hit comes too late for it. -/
def insert (c : Clusterer) (hit : Hit) : Clusterer :=
  let c := if c.startsGroup hit then c.flush else c
  { c with arrivals := c.arrivals.push hit, hitsProcessed := c.hitsProcessed + 1 }

def insertAll (c : Clusterer) (hits : List Hit) : Clusterer := hits.foldl insert c

def take (c : Clusterer) : List Cluster × Clusterer := (c.clusters, { c with finished := {} })

/-- The clusters of all hits of a plane, given in order of time. -/
def clustersOf (config : ClusterConfig) (hits : List Hit) : List Cluster :=
  (Clusterer.flush (insertAll { config } hits)).clusters

theorem startsGroup_eq (c : Clusterer) (hit : Hit) :
    c.startsGroup hit =
      c.group.getLast?.any fun last => ticksSince last.time hit.time > c.config.maxTimeGap.toNat := by
  rw [startsGroup, Series.last?_eq, group]
  cases c.arrivals.toList.getLast? <;> rfl

@[simp] theorem group_flush (c : Clusterer) : c.flush.group = [] := rfl

@[simp] theorem clusters_flush (c : Clusterer) : c.flush.clusters = c.clusters ++ c.completed :=
  Series.toList_append c.finished c.completed

theorem group_insert (c : Clusterer) (hit : Hit) :
    (c.insert hit).group = (if c.startsGroup hit then [] else c.group) ++ [hit] := by
  unfold insert
  split <;> simp [group, flush]

theorem clusters_insert (c : Clusterer) (hit : Hit) :
    (c.insert hit).clusters = c.clusters ++ if c.startsGroup hit then c.completed else [] := by
  unfold insert
  split <;> simp [clusters, flush]

@[simp] theorem take_fst (c : Clusterer) : c.take.1 = c.clusters := rfl

@[simp] theorem clusters_take (c : Clusterer) : c.take.2.clusters = [] := rfl

end Clusterer

end EventFormation
