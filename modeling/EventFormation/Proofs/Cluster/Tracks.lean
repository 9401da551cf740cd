import EventFormation.Proofs.Cluster.Runs
import EventFormation.Proofs.Readout.Tracks

namespace EventFormation

theorem Hit.sortByCoordinate_of_ordered {hits : List Hit}
    (ordered : hits.Pairwise fun a b => a.coordinate ≤ b.coordinate) : sortByCoordinate hits = hits := by
  rw [sortByCoordinate, stableSort_eq]
  exact List.mergeSort_of_pairwise (ordered.imp fun before => decide_eq_true before)

/-- Clusters keep the hits of a track together and those of two events apart. -/
structure ClusterConfig.Resolves (config : ClusterConfig) (g : GeneratorConfig) : Prop where
  inTime : g.events * g.spacing.toNat + g.length < wordCount
  apart : config.maxTimeGap.toNat + g.length ≤ g.spacing.toNat
  close : 1 < g.length → 1 ≤ config.maxTimeGap.toNat ∧ 1 ≤ config.maxCoordGap.toNat

theorem ClusterConfig.Resolves.separate {config : ClusterConfig} {g : GeneratorConfig} (resolves : config.Resolves g) :
    g.Separate :=
  ⟨resolves.inTime, (Nat.le_add_left ..).trans resolves.apart⟩

section Tracks

variable {length time : Nat} {plane : UInt8}

/-- A cluster of all hits of a track. -/
def Track.cluster (t : Track length) (time : Nat) (plane : UInt8) : Cluster := .ofHits (t.hits time plane)

theorem Track.hits_cluster (t : Track length) : (t.cluster time plane).hits = t.hits time plane :=
  Cluster.hits_ofHits _

theorem Track.faithful_cluster (t : Track length) : (t.cluster time plane).Faithful := (Cluster.Built.ofHits _).faithful

theorem Track.times (t : Track length) (inTime : time + length ≤ wordCount) (some : 0 < length) :
    Extremes ((t.hits time plane).map (·.time)) (.ofNat time) (.ofNat (time + (length - 1))) := by
  show Extremes _ (UInt64.ofNat (time + 0)) _
  refine Extremes.of_interval (fun step => UInt64.ofNat (time + step)) (Nat.zero_le _) ?_ fun value => ?_
  · intro step step' before within
    rw [UInt64.le_iff_toNat_le, toNat_time inTime (by omega), toNat_time inTime (by omega)]
    omega
  rw [List.mem_map]
  constructor
  · rintro ⟨hit, atHit, rfl⟩
    obtain ⟨step, within, atTime, _⟩ := mem_hits inTime atHit
    exact ⟨step, Nat.zero_le step, by omega, by rw [← atTime, UInt64.ofNat_toNat]⟩
  · rintro ⟨step, _, within, rfl⟩
    have inside : step < length := by omega
    obtain ⟨hit, atHit, atTime, _⟩ := t.exists_hit plane inTime inside
    exact ⟨hit, atHit, by rw [← atTime, UInt64.ofNat_toNat]⟩

theorem Track.timeEnd_cluster (t : Track length) (inTime : time + length ≤ wordCount) (some : 0 < length) :
    (t.cluster time plane).timeEnd.toNat = time + (length - 1) := by
  have filled : (t.cluster time plane).hits ≠ [] := by
    rw [hits_cluster]
    exact t.hits_ne_nil some
  have times := t.faithful_cluster.times filled
  rw [hits_cluster] at times
  rw [(times.unique (t.times inTime some) (List.Perm.refl _)).2]
  exact toNat_time inTime (Nat.sub_lt some Nat.zero_lt_one)

namespace Clusterer

theorem groupClusters_track {maxGap : UInt16} (t : Track length) (inTime : time + length ≤ wordCount)
    (some : 0 < length) (close : 1 < length → 1 ≤ maxGap.toNat) :
    groupClusters maxGap (t.hits time plane) = [t.cluster time plane] := by
  have ordered : (t.hits time plane).Pairwise fun a b => a.coordinate ≤ b.coordinate :=
    (t.pairwise_hits inTime).imp fun both => UInt16.le_of_lt both.2
  have adjacent : (t.hits time plane).IsChain fun a b => Hit.adjacent maxGap a b = true := by
    refine (t.isChain_hits inTime).imp fun a b next => decide_eq_true ?_
    have near := close next.1
    omega
  rw [groupClusters_eq, Hit.sortByCoordinate_of_ordered ordered,
    List.splitBy_of_isChain (t.hits_ne_nil some) adjacent, List.map_singleton]
  rfl

end Clusterer

end Tracks

/-- There is one cluster for each track of a plane. -/
theorem ClusterConfig.Resolves.clustersOf_column {config : ClusterConfig} {g : GeneratorConfig}
    (resolves : config.Resolves g) (tracks : Nat → UInt8 → Track g.length) (plane : UInt8) :
    Clusterer.clustersOf config (g.column tracks plane) =
      (List.range g.events).map fun i => (tracks i plane).cluster (i * g.spacing.toNat) plane := by
  have inTime {i : Nat} (inside : i < g.events) := resolves.separate.track_inTime inside
  have some := g.length_pos
  have groups : (g.column tracks plane).splitBy (Hit.inTime config.maxTimeGap) =
      (List.range g.events).map fun i => (tracks i plane).hits (i * g.spacing.toNat) plane := by
    rw [GeneratorConfig.column, List.flatMap_def]
    refine List.splitBy_flatten ?_ ?_ ?_
    · intro none
      obtain ⟨i, _, nothing⟩ := List.mem_map.mp none
      exact (tracks i plane).hits_ne_nil some nothing
    · intro group member
      obtain ⟨i, inside, rfl⟩ := List.mem_map.mp member
      refine ((tracks i plane).isChain_hits (inTime (List.mem_range.mp inside))).imp fun a b next => decide_eq_true ?_
      have near := (resolves.close next.1).1
      rw [ticksSince]
      omega
    · refine (List.pairwise_map.mpr (List.pairwise_lt_range.imp_of_mem fun {i j} atI atJ later => ?_)).isChain
      have filled {k : Nat} : (tracks k plane).hits (k * g.spacing.toNat) plane ≠ [] :=
        (tracks k plane).hits_ne_nil some
      obtain ⟨step, within, early, _⟩ := Track.mem_hits (inTime (List.mem_range.mp atI)) (List.getLast_mem filled)
      obtain ⟨step', _, late, _⟩ := Track.mem_hits (inTime (List.mem_range.mp atJ)) (List.head_mem filled)
      have next := g.spacing_le_of_lt later
      have apart := resolves.apart
      refine ⟨filled, filled, decide_eq_false ?_⟩
      rw [ticksSince]
      omega
  rw [Clusterer.clustersOf_eq, groups, List.flatMap_map, List.map_eq_flatMap]
  refine List.flatMap_congr fun i member => ?_
  exact Clusterer.groupClusters_track (tracks i plane) (inTime (List.mem_range.mp member)) some fun more =>
    (resolves.close more).2

end EventFormation
