import EventFormation.Proofs.Cluster.Reordering
import Mathlib.Data.List.Pairwise
import Mathlib.Data.List.Perm.Basic
import Mathlib.Logic.Relation

namespace EventFormation

/-- Hits cut into runs of consecutive ones. In a run each hit comes early enough after the one before it, and
no run could go on with the first hit of the next. -/
structure TimeRuns (maxGap : UInt64) (hits : List Hit) (runs : List (List Hit)) : Prop where
  joined : runs.flatten = hits
  filled : [] ∉ runs
  together : ∀ run ∈ runs, run.IsChain fun a b => ticksSince a.time b.time ≤ maxGap.toNat
  apart : runs.IsChain fun run next =>
    ∀ last ∈ run.getLast?, ∀ first ∈ next.head?, maxGap.toNat < ticksSince last.time first.time

def Hit.coordinatesApart (a b : Hit) : Nat :=
  (a.coordinate.toNat - b.coordinate.toNat) + (b.coordinate.toNat - a.coordinate.toNat)

/-- A chain of hits of the run leads from one hit to the other, with no step over the gap. -/
def Hit.Linked (maxGap : UInt16) (run : List Hit) : Hit → Hit → Prop :=
  Relation.ReflTransGen fun a b => a ∈ run ∧ b ∈ run ∧ a.coordinatesApart b ≤ maxGap.toNat

/-- The classes of linked hits of a run in order of coordinates, and in each of them the hits in order of
coordinates. Hits of one coordinate are in the order of the run. -/
structure Components (maxGap : UInt16) (run : List Hit) (groups : List (List Hit)) : Prop where
  filled : [] ∉ groups
  parts : groups.flatten.Perm run
  classes : ∀ group ∈ groups, ∀ a ∈ group, ∀ b, b ∈ group ↔ b ∈ run ∧ Hit.Linked maxGap run a b
  ascending : groups.Pairwise fun group later => ∀ a ∈ group, ∀ b ∈ later, a.coordinate < b.coordinate
  ordered : ∀ group ∈ groups, group.Pairwise fun a b => a.coordinate ≤ b.coordinate
  ties : ∀ group ∈ groups, ∀ a ∈ group,
    group.filter (·.coordinate == a.coordinate) = run.filter (·.coordinate == a.coordinate)

theorem timeRuns_splitBy (maxGap : UInt64) (hits : List Hit) :
    TimeRuns maxGap hits (hits.splitBy (Hit.inTime maxGap)) where
  joined := List.flatten_splitBy _ hits
  filled := List.nil_notMem_splitBy _ hits
  together := fun run member => (List.isChain_of_mem_splitBy member).imp fun _ _ near => of_decide_eq_true near
  apart := by
    refine (List.isChain_getLast_head_splitBy _ hits).imp ?_
    rintro run next ⟨filled, some, late⟩ last atLast first atFirst
    rw [List.getLast?_eq_some_getLast filled, Option.mem_some_iff] at atLast
    rw [List.head?_eq_some_head some, Option.mem_some_iff] at atFirst
    rw [atLast, atFirst, Hit.inTime, decide_eq_false_iff_not] at late
    exact Nat.not_le.mp late

namespace Hit

variable {maxGap : UInt16} {run group : List Hit} {a b : Hit}

theorem Linked.symm (linked : Linked maxGap run a b) : Linked maxGap run b a := by
  induction linked with
  | refl => exact .refl
  | tail _ step ih =>
    obtain ⟨first, second, near⟩ := step
    refine .head ⟨second, first, ?_⟩ ih
    rw [coordinatesApart] at near ⊢
    omega

/-- Neighbours that are near link all hits of a list to each other. -/
theorem linked_of_isChain (inside : group ⊆ run) (sorted : group.Pairwise fun a b => a.coordinate ≤ b.coordinate)
    (chain : group.IsChain fun a b => adjacent maxGap a b = true) (atA : a ∈ group) (atB : b ∈ group) :
    Linked maxGap run a b := by
  have step : group.IsChain (Linked maxGap run) := by
    refine List.isChain_iff_getElem.mpr fun i inRange => ?_
    refine .single ⟨inside (List.getElem_mem _), inside (List.getElem_mem _), ?_⟩
    have near := List.isChain_iff_getElem.mp chain i inRange
    have low := List.pairwise_iff_getElem.mp sorted i (i + 1) (by omega) inRange (by omega)
    rw [adjacent, decide_eq_true_eq] at near
    rw [UInt16.le_iff_toNat_le] at low
    rw [coordinatesApart]
    omega
  have : Std.Symm (Linked maxGap run) := ⟨fun _ _ => Linked.symm⟩
  have : Trans (Linked maxGap run) (Linked maxGap run) (Linked maxGap run) := ⟨Relation.ReflTransGen.trans⟩
  exact (List.isChain_iff_pairwise.mp step).forall_of_forall (fun _ _ => .refl) atA atB

theorem filter_sortByCoordinate (hits : List Hit) (coordinate : UInt16) :
    (sortByCoordinate hits).filter (·.coordinate == coordinate) = hits.filter (·.coordinate == coordinate) := by
  have equal : (hits.filter (·.coordinate == coordinate)).Pairwise fun a b =>
      decide (a.coordinate ≤ b.coordinate) = true := by
    refine List.pairwise_of_forall_mem_list fun a atA b atB => ?_
    rw [eq_of_beq (List.mem_filter.mp atA).2, eq_of_beq (List.mem_filter.mp atB).2]
    exact decide_eq_true (UInt16.le_refl coordinate)
  have kept : (hits.filter (·.coordinate == coordinate)).Sublist (sortByCoordinate hits) := by
    rw [sortByCoordinate, stableSort_eq]
    refine List.sublist_mergeSort (fun a b c first second => ?_) (fun a b => ?_) equal List.filter_sublist
    · simp only [decide_eq_true_eq] at *
      exact UInt16.le_trans first second
    · simpa using UInt16.le_total a.coordinate b.coordinate
  have sublist := kept.filter (·.coordinate == coordinate)
  simp only [List.filter_filter, Bool.and_self] at sublist
  refine (sublist.eq_of_length ?_).symm
  exact ((sortByCoordinate_perm hits).filter _).length_eq.symm

/-- No step of a chain leaves a group, if all other groups are further away than the gap. -/
theorem Linked.mem_group {groups : List (List Hit)} (linked : Linked maxGap run a b) (all : run ⊆ groups.flatten)
    (apart : groups.Pairwise fun g h => ∀ x ∈ g, ∀ y ∈ h, maxGap.toNat < x.coordinatesApart y)
    (member : group ∈ groups) (atA : a ∈ group) : b ∈ group := by
  have : Std.Symm fun g h : List Hit => ∀ x ∈ g, ∀ y ∈ h, maxGap.toNat < x.coordinatesApart y := by
    refine ⟨fun g h far x atX y atY => ?_⟩
    have more := far y atY x atX
    rw [coordinatesApart] at more ⊢
    omega
  induction linked with
  | refl => exact atA
  | @tail c d _ step atC =>
    obtain ⟨_, inRun, near⟩ := step
    obtain ⟨other, there, atD⟩ := List.mem_flatten.mp (all inRun)
    by_contra outside
    have different : group ≠ other := fun same => outside (same ▸ atD)
    have far := apart.forall member there different c atC d atD
    omega

/-- All hits of one coordinate are in one group. -/
theorem filter_group {groups : List (List Hit)}
    (ascending : groups.Pairwise fun group later => ∀ a ∈ group, ∀ b ∈ later, a.coordinate < b.coordinate)
    (member : group ∈ groups) (atA : a ∈ group) :
    group.filter (·.coordinate == a.coordinate) = groups.flatten.filter (·.coordinate == a.coordinate) := by
  have none {others : List (List Hit)} (strange : ∀ other ∈ others, ∀ b ∈ other, b.coordinate ≠ a.coordinate) :
      others.flatten.filter (·.coordinate == a.coordinate) = [] := by
    refine List.filter_eq_nil_iff.mpr fun b inside same => ?_
    obtain ⟨other, there, atB⟩ := List.mem_flatten.mp inside
    exact strange other there b atB (eq_of_beq same)
  obtain ⟨before, after, split⟩ := List.append_of_mem member
  rw [split, List.pairwise_append, List.pairwise_cons] at ascending
  obtain ⟨_, ⟨above, _⟩, below⟩ := ascending
  have first := none fun other there b atB =>
    UInt16.ne_of_lt (below other there group List.mem_cons_self b atB a atA)
  have last := none fun other there b atB => (UInt16.ne_of_lt (above other there a atA b atB)).symm
  rw [split, List.flatten_append, List.flatten_cons, List.filter_append, List.filter_append, first, last,
    List.append_nil, List.nil_append]

/-- The groups of the hits of a run in order of coordinates, cut at the gaps, are its classes. -/
theorem components_splitBy (maxGap : UInt16) (run : List Hit) :
    Components maxGap run ((sortByCoordinate run).splitBy (adjacent maxGap)) := by
  have sorted := sortByCoordinate_pairwise run
  have apart := apart_splitBy maxGap.toNat (sorted.imp UInt16.le_iff_toNat_le.mp)
  have joined := List.flatten_splitBy (adjacent maxGap) (sortByCoordinate run)
  have parts : ((sortByCoordinate run).splitBy (adjacent maxGap)).flatten.Perm run := by
    rw [joined]
    exact sortByCoordinate_perm run
  have ordered : ∀ group ∈ (sortByCoordinate run).splitBy (adjacent maxGap),
      group.Pairwise fun a b => a.coordinate ≤ b.coordinate := by
    rw [← joined, List.pairwise_flatten] at sorted
    exact sorted.1
  have ascending : ((sortByCoordinate run).splitBy (adjacent maxGap)).Pairwise fun group later =>
      ∀ a ∈ group, ∀ b ∈ later, a.coordinate < b.coordinate := by
    refine apart.imp fun far a atA b atB => ?_
    have less := far a atA b atB
    rw [UInt16.lt_iff_toNat_lt]
    omega
  refine ⟨List.nil_notMem_splitBy _ _, parts, fun group member a atA b => ?_, ascending, ordered,
    fun group member a atA => ?_⟩
  · have inside : group ⊆ run := fun hit atHit => parts.subset (List.mem_flatten.mpr ⟨group, member, atHit⟩)
    constructor
    · intro atB
      exact ⟨inside atB, linked_of_isChain inside (ordered group member) (List.isChain_of_mem_splitBy member) atA atB⟩
    · rintro ⟨_, linked⟩
      refine linked.mem_group parts.symm.subset (apart.imp fun far x atX y atY => ?_) member atA
      have less := far x atX y atY
      rw [coordinatesApart]
      omega
  · rw [filter_group ascending member atA, joined, filter_sortByCoordinate]

end Hit

namespace Clusterer

/-- What can be asked of a clusterer in the course of a run. -/
inductive Request
  | insert (hit : Hit)
  | take

def Request.hit? : Request → Option Hit
  | insert hit => some hit
  | take => none

/-- The clusters that a request returns, and the clusterer after it. -/
def serve (c : Clusterer) : Request → List Cluster × Clusterer
  | .insert hit => ([], c.insert hit)
  | .take => c.take

def serveAll (c : Clusterer) : List Request → List Cluster × Clusterer
  | [] => ([], c)
  | request :: rest =>
    let (first, c) := c.serve request
    let (others, c) := c.serveAll rest
    (first ++ others, c)

/-- A clusterer from which clusters were taken, compared with one that still has all of them. -/
structure Drawn (taken : List Cluster) (c whole : Clusterer) : Prop where
  config : c.config = whole.config
  arrivals : c.arrivals = whole.arrivals
  clusters : taken ++ c.clusters = whole.clusters
  processed : c.hitsProcessed = whole.hitsProcessed
  found : c.clustersFound = whole.clustersFound

variable {c whole : Clusterer} {taken : List Cluster}

theorem Drawn.flush (drawn : Drawn taken c whole) : Drawn taken c.flush whole.flush := by
  have completed : c.completed = whole.completed := by
    rw [completed, completed, group, group, drawn.config, drawn.arrivals]
  refine ⟨drawn.config, rfl, ?_, drawn.processed, ?_⟩
  · rw [clusters_flush, clusters_flush, ← List.append_assoc, drawn.clusters, completed]
  · show c.clustersFound + _ = whole.clustersFound + _
    rw [drawn.found, completed]

theorem Drawn.insert (drawn : Drawn taken c whole) (hit : Hit) : Drawn taken (c.insert hit) (whole.insert hit) := by
  have starts : c.startsGroup hit = whole.startsGroup hit := by
    rw [startsGroup, startsGroup, drawn.config, drawn.arrivals]
  have pushed {d e : Clusterer} (before : Drawn taken d e) : Drawn taken
      { d with arrivals := d.arrivals.push hit, hitsProcessed := d.hitsProcessed + 1 }
      { e with arrivals := e.arrivals.push hit, hitsProcessed := e.hitsProcessed + 1 } :=
    ⟨before.config, by rw [before.arrivals], before.clusters, by rw [before.processed], before.found⟩
  unfold Clusterer.insert
  rw [starts]
  split
  · exact pushed drawn.flush
  · exact pushed drawn

theorem Drawn.take (drawn : Drawn taken c whole) : Drawn (taken ++ c.take.1) c.take.2 whole :=
  ⟨drawn.config, drawn.arrivals, by rw [take_fst, clusters_take, List.append_nil, drawn.clusters], drawn.processed,
    drawn.found⟩

theorem Drawn.serveAll (drawn : Drawn taken c whole) (requests : List Request) :
    Drawn (taken ++ (c.serveAll requests).1) (c.serveAll requests).2
      (whole.insertAll (requests.filterMap Request.hit?)) := by
  induction requests generalizing taken c whole with
  | nil =>
    rw [Clusterer.serveAll, List.append_nil]
    exact drawn
  | cons request rest ih =>
    cases request with
    | insert hit => exact ih (drawn.insert hit)
    | take =>
      have later := ih drawn.take
      rw [List.append_assoc] at later
      exact later

theorem counters_insertAll (hits : List Hit) (counted : c.clustersFound = c.clusters.length) :
    (c.insertAll hits).hitsProcessed = c.hitsProcessed + hits.length ∧
      (c.insertAll hits).clustersFound = (c.insertAll hits).clusters.length := by
  induction hits generalizing c with
  | nil => exact ⟨rfl, counted⟩
  | cons hit rest ih =>
    have flushed : c.flush.clustersFound = c.flush.clusters.length := by
      rw [clusters_flush, List.length_append, ← counted]
      rfl
    have inserted : (c.insert hit).hitsProcessed = c.hitsProcessed + 1 ∧
        (c.insert hit).clustersFound = (c.insert hit).clusters.length := by
      unfold Clusterer.insert
      split
      · exact ⟨rfl, flushed⟩
      · exact ⟨rfl, counted⟩
    obtain ⟨processed, found⟩ := ih inserted.2
    refine ⟨?_, found⟩
    show ((c.insert hit).insertAll rest).hitsProcessed = _
    rw [processed, inserted.1, List.length_cons]
    omega

theorem clustersOf_components (config : ClusterConfig) (hits : List Hit) :
    ∃ runs groups, TimeRuns config.maxTimeGap hits runs ∧
      List.Forall₂ (Components config.maxCoordGap) runs groups ∧
      clustersOf config hits = groups.flatten.map Cluster.ofHits := by
  refine ⟨_, _, timeRuns_splitBy config.maxTimeGap hits, List.forall₂_map_right_iff.mpr
    (List.forall₂_same.mpr fun run _ => Hit.components_splitBy config.maxCoordGap run), ?_⟩
  rw [clustersOf_eq, List.map_flatten, List.map_map, List.flatMap_def]
  exact congrArg List.flatten (List.map_congr_left fun run _ => groupClusters_eq config.maxCoordGap run)

theorem clustersOf_hits_perm (config : ClusterConfig) (hits : List Hit) :
    ((clustersOf config hits).flatMap Cluster.hits).Perm hits := by
  have joined := List.flatten_splitBy (Hit.inTime config.maxTimeGap) hits
  rw [clustersOf_eq, List.flatMap_assoc]
  have groups : ∀ run ∈ hits.splitBy (Hit.inTime config.maxTimeGap),
      ((groupClusters config.maxCoordGap run).flatMap Cluster.hits).Perm run := by
    intro run _
    rw [groupClusters_hits]
    exact Hit.sortByCoordinate_perm run
  refine (List.Perm.flatMap_left _ groups).trans ?_
  rw [List.flatMap_id', joined]

/-- Whenever finished clusters are taken, those of a run of insertions and a last flush are the classes of linked
hits, time-group after time-group. -/
theorem clusters_are_components (config : ClusterConfig) (requests : List Request) :
    let hits := requests.filterMap Request.hit?
    let (taken, c) := serveAll { config } requests
    let clusters := taken ++ c.flush.clusters
    (∃ runs groups, TimeRuns config.maxTimeGap hits runs ∧
      List.Forall₂ (Components config.maxCoordGap) runs groups ∧ clusters = groups.flatten.map Cluster.ofHits) ∧
    clusters = clustersOf config hits ∧
    (clusters.flatMap Cluster.hits).Perm hits ∧ (∀ c ∈ clusters, c.hits ≠ []) ∧
    c.flush.hitsProcessed = hits.length ∧ c.flush.clustersFound = clusters.length ∧ c.flush.group = [] := by
  intro hits
  have drawn : Drawn [] { config } { config } := ⟨rfl, rfl, rfl, rfl, rfl⟩
  have flushed := (drawn.serveAll requests).flush
  rw [List.nil_append] at flushed
  generalize serveAll { config } requests = served at flushed ⊢
  obtain ⟨taken, c⟩ := served
  obtain ⟨processed, found⟩ := @counters_insertAll { config } hits rfl
  have same : taken ++ c.flush.clusters = clustersOf config hits := flushed.clusters
  dsimp only
  rw [same]
  refine ⟨clustersOf_components config hits, rfl, clustersOf_hits_perm config hits, fun c member => ?_, ?_, ?_, rfl⟩
  · rw [clustersOf_eq] at member
    obtain ⟨run, _, inRun⟩ := List.mem_flatMap.mp member
    exact (groupClusters_built inRun).2
  · rw [flushed.processed]
    exact processed.trans (Nat.zero_add _)
  · rw [flushed.found, clustersOf, clusters_flush, List.length_append, ← found]
    rfl

end Clusterer

end EventFormation
