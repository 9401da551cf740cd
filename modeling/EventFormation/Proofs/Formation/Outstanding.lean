import EventFormation.Proofs.Formation.Safety

namespace EventFormation

namespace Clusterer

/-- All clusters that are handed on if these hits come and then every time-group is ended. -/
def coming (c : Clusterer) (hits : List Hit) : List Cluster := (c.insertAll hits).flush.clusters

variable {c : Clusterer} {hits : List Hit}

theorem clusters_insert_faithful (hit : Hit) : ∀ d ∈ (c.insert hit).clusters,
    d ∈ c.clusters ∨ d.Faithful ∧ d.hits ≠ [] ∧ d.hits ⊆ c.group := by
  intro d member
  rw [clusters_insert, List.mem_append] at member
  rcases member with old | new
  · exact Or.inl old
  · split at new
    · exact Or.inr (completed_faithful d new)
    · cases new

theorem group_insert_subset (hit : Hit) : (c.insert hit).group ⊆ c.group ++ [hit] := by
  rw [group_insert]
  split
  · exact List.subset_append_right _ _
  · exact List.Subset.refl _

theorem coming_faithful : ∀ d ∈ c.coming hits,
    d ∈ c.clusters ∨ d.Faithful ∧ d.hits ≠ [] ∧ d.hits ⊆ c.group ++ hits := by
  induction hits generalizing c with
  | nil =>
    intro d member
    rw [coming, insertAll, List.foldl_nil, clusters_flush, List.mem_append] at member
    rw [List.append_nil]
    exact member.imp_right (completed_faithful d)
  | cons hit rest ih =>
    intro d member
    rcases ih d member with old | ⟨faithful, filled, inside⟩
    · rcases clusters_insert_faithful hit d old with older | ⟨faithful, filled, inside⟩
      · exact Or.inl older
      · exact Or.inr ⟨faithful, filled, List.subset_append_of_subset_left _ inside⟩
    · refine Or.inr ⟨faithful, filled, fun other there => ?_⟩
      rcases List.mem_append.mp (inside there) with group | later
      · rw [← List.singleton_append, ← List.append_assoc]
        exact List.mem_append_left _ (group_insert_subset hit group)
      · exact List.mem_append_right _ (List.mem_cons_of_mem hit later)

/-- Clusters that are taken are missing from what is handed on later, and nothing else is. -/
theorem coming_split {d : Clusterer} {front : List Cluster} (config : d.config = c.config)
    (arrivals : d.arrivals = c.arrivals) (clusters : c.clusters = front ++ d.clusters) :
    c.coming hits = front ++ d.coming hits := by
  induction hits generalizing c d with
  | nil =>
    have completed : d.completed = c.completed := by rw [completed, completed, group, group, config, arrivals]
    simp only [coming, insertAll, List.foldl_nil, clusters_flush, clusters, completed, List.append_assoc]
  | cons hit rest ih =>
    have starts : d.startsGroup hit = c.startsGroup hit := by rw [startsGroup, startsGroup, config, arrivals]
    have completed : d.completed = c.completed := by rw [completed, completed, group, group, config, arrivals]
    refine @ih (c.insert hit) (d.insert hit) ?_ ?_ ?_
    · rw [insert, insert, starts]
      split <;> exact config
    · rw [insert, insert, starts]
      split
      · rfl
      · rw [arrivals]
    · rw [clusters_insert, clusters_insert, starts, completed, clusters, List.append_assoc]

theorem coming_take : c.coming hits = c.clusters ++ c.take.2.coming hits := coming_split rfl rfl (by simp)

end Clusterer

namespace EventBuilder

/-- All clusters that a builder still hands on to be matched, if these hits come. -/
def outstanding (b : EventBuilder) (hits : List Hit) : List Cluster :=
  b.clusterers.flatMap fun entry => entry.2.coming (hits.filter (·.plane == entry.1))

variable {config : FormationConfig} {before hits : List Hit} {b : EventBuilder}

theorem outstanding_insert (distinct : (b.clusterers.map (·.1)).Nodup) (hit : Hit) :
    (b.insert hit).outstanding hits = b.outstanding (hit :: hits) := by
  rw [outstanding, clusterers_insert distinct, List.flatMap_map, outstanding]
  refine List.flatMap_congr fun entry member => ?_
  by_cases own : (entry.1 == hit.plane) = true
  · have same : (hit.plane == entry.1) = true := by rw [BEq.comm]; exact own
    simp only [own, if_true, List.filter_cons, same]
    rfl
  · have apart : ¬ (hit.plane == entry.1) = true := by rw [BEq.comm]; exact own
    simp only [own, List.filter_cons, apart, Bool.false_eq_true, if_false]

theorem outstanding_insertAll (follows : Follows config before b) (first : List Hit) :
    (b.insertAll first).outstanding hits = b.outstanding (first ++ hits) := by
  induction first generalizing before b with
  | nil => rfl
  | cons hit rest ih =>
    have distinct : (b.clusterers.map (·.1)).Nodup := by
      rw [follows.planes]
      exact follows.distinct
    rw [List.cons_append, ← outstanding_insert distinct]
    exact ih (follows.insert hit)

/-- What is handed on leaves the clusterers for the queue. -/
theorem outstanding_moveClusters (follows : Follows config before b) :
    (b.moveClusters.matcher.unmatched ++ b.moveClusters.outstanding hits).Perm
      (b.matcher.unmatched ++ b.outstanding hits) := by
  have delivered := Matcher.insertAll_delivered follows.proper
  rw [← matcher_moveClusters] at delivered
  have handed : b.deliveries.flatMap (·.2) = b.clusterers.flatMap (·.2.clusters) := List.flatMap_map ..
  have later : b.moveClusters.outstanding hits =
      b.clusterers.flatMap fun entry => entry.2.take.2.coming (hits.filter (·.plane == entry.1)) :=
    List.flatMap_map ..
  have whole : b.outstanding hits = b.clusterers.flatMap fun entry =>
      entry.2.clusters ++ entry.2.take.2.coming (hits.filter (·.plane == entry.1)) :=
    List.flatMap_congr fun entry member => Clusterer.coming_take
  rw [delivered.unmatched, handed, later, whole, List.append_assoc]
  exact (List.flatMap_append_perm ..).append_left _

theorem unmatched_flushClusterers (follows : Follows config before b) :
    b.flushClusterers.moveClusters.matcher.unmatched = b.matcher.unmatched ++ b.outstanding [] := by
  have delivered := Matcher.insertAll_delivered follows.flushClusterers.proper
  rw [← matcher_moveClusters] at delivered
  rw [delivered.unmatched, deliveries, List.flatMap_map, flushClusterers, List.flatMap_map]
  rfl

/-- All that is outstanding can join an event. What has not been completed yet is made of hits of an
open time-group and of those that still come. -/
theorem mem_outstanding (follows : Follows config before b) {c : Cluster} (member : c ∈ b.outstanding hits) :
    ∃ entry ∈ b.clusterers, c.Tracked config.planes ∧
      (c ∈ entry.2.clusters ∨ c.hits ⊆ entry.2.group ++ hits.filter (·.plane == entry.1)) := by
  obtain ⟨entry, inside, atEntry⟩ := List.mem_flatMap.mp member
  obtain ⟨latest, there⟩ := follows.exists_latest inside
  obtain ⟨ended, split, clusters, _⟩ := follows.behind entry inside latest there
  have tracked : entry.1 ∈ config.planes := by
    rw [← follows.planes]
    exact List.mem_map_of_mem inside
  have onPlane : ∀ hit ∈ ended ++ entry.2.group, hit.plane = entry.1 := by
    intro hit seen
    rw [← split] at seen
    simpa using (List.mem_filter.mp seen).2
  refine ⟨entry, inside, ?_⟩
  rcases Clusterer.coming_faithful c atEntry with old | ⟨faithful, filled, within⟩
  · obtain ⟨faithful, filled, within⟩ := clusters c old
    refine ⟨⟨faithful, entry.1, tracked, (faithful.plane entry.1).mpr ⟨filled, fun hit atHit => ?_⟩⟩, Or.inl old⟩
    exact onPlane hit (List.mem_append_left _ (within atHit))
  · refine ⟨⟨faithful, entry.1, tracked, (faithful.plane entry.1).mpr ⟨filled, fun hit atHit => ?_⟩⟩, Or.inr within⟩
    rcases List.mem_append.mp (within atHit) with group | later
    · exact onPlane hit (List.mem_append_right _ group)
    · simpa using (List.mem_filter.mp later).2

/-- Nothing that is outstanding once the completed clusters are handed on is final before it comes. -/
theorem outstanding_late (follows : Follows config before b)
    (ordered : ∀ plane ∈ config.planes, ((before ++ hits).filter (·.plane == plane)).Pairwise
      fun a b => a.time ≤ b.time)
    {c : Cluster} (member : c ∈ b.moveClusters.outstanding hits) : b.moveClusters.matcher.isReady c = false := by
  have moved := follows.moveClusters
  obtain ⟨entry, inside, tracked, old | within⟩ := mem_outstanding moved member
  · obtain ⟨first, _, rfl⟩ := List.mem_map.mp inside
    cases old
  · obtain ⟨hit, atHit⟩ := List.exists_mem_of_ne_nil c.hits tracked.hits_ne_nil
    have plane : entry.1 ∈ config.planes := by
      rw [← moved.planes]
      exact List.mem_map_of_mem inside
    have place : hit ∈ entry.2.group ∨ hit ∈ hits ∧ hit.plane = entry.1 := by
      rcases List.mem_append.mp (within atHit) with group | later
      · exact Or.inl group
      · obtain ⟨there, own⟩ := List.mem_filter.mp later
        exact Or.inr ⟨there, by simpa using own⟩
    have ahead := moved.horizon_le inside (ordered _ plane) place
    have stop := UInt64.le_iff_toNat_le.mp (tracked.faithful.time_le_timeEnd atHit)
    rw [← Bool.not_eq_true, Matcher.isReady_iff]
    rcases ahead with none | ahead
    · rw [none]
      exact Nat.not_lt_zero _
    · rw [UInt64.le_iff_toNat_le] at ahead
      omega

end EventBuilder

end EventFormation
