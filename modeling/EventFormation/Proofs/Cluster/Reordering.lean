import EventFormation.Proofs.Cluster.Runs
import EventFormation.Proofs.Pairs

namespace EventFormation

section Splitting

variable {α : Type} {key : α → Nat}

/-- In a sorted list that is cut only where keys rise by more than a gap, different groups are that far apart. -/
theorem apart_of_breaks {gap : Nat} {groups : List (List α)}
    (sorted : groups.flatten.Pairwise fun a b => key a ≤ key b)
    (breaks : groups.IsChain fun g h => ∃ filled some, key (g.getLast filled) + gap < key (h.head some)) :
    groups.Pairwise fun g h => ∀ a ∈ g, ∀ b ∈ h, key a + gap < key b := by
  induction groups with
  | nil => exact List.Pairwise.nil
  | cons group rest ih =>
    rw [List.flatten_cons, List.pairwise_append] at sorted
    rw [List.isChain_cons] at breaks
    refine List.pairwise_cons.mpr ⟨?_, ih sorted.2.1 breaks.2⟩
    intro later member a atGroup b atLater
    cases rest with
    | nil => cases member
    | cons next others =>
      obtain ⟨filled, some, rise⟩ := breaks.1 next rfl
      have low : key a ≤ key (group.getLast filled) := by
        have first := sorted.1
        rw [← List.dropLast_append_getLast filled, List.pairwise_append] at first
        rw [← List.dropLast_append_getLast filled, List.mem_append, List.mem_singleton] at atGroup
        rcases atGroup with early | rfl
        · exact first.2.2 a early _ (List.mem_singleton_self _)
        · exact Nat.le_refl _
      have high : key (next.head some) ≤ key b := by
        have last := sorted.2.1
        have inside : b ∈ (next :: others).flatten := List.mem_flatten.mpr ⟨later, member, atLater⟩
        rw [List.flatten_cons, ← List.cons_head_tail some] at last inside
        rcases List.mem_cons.mp inside with rfl | behind
        · simp
        · exact (List.pairwise_cons.mp last).1 b behind
      omega

/-- The groups of a sorted list that is cut at the gaps are further apart than the gap. -/
theorem apart_splitBy (gap : Nat) {items : List α} (sorted : items.Pairwise fun a b => key a ≤ key b) :
    (items.splitBy fun a b => decide (key b - key a ≤ gap)).Pairwise fun g h =>
      ∀ a ∈ g, ∀ b ∈ h, key a + gap < key b := by
  refine apart_of_breaks (by rwa [List.flatten_splitBy]) ((List.isChain_getLast_head_splitBy _ items).imp ?_)
  rintro group next ⟨filled, some, far⟩
  refine ⟨filled, some, ?_⟩
  rw [decide_eq_false_iff_not] at far
  omega

/-- Groups of the same keys that share no key hold the same items, if they do so all together. -/
theorem forall₂_perm_of_keys {groups others : List (List α)}
    (keys : groups.map (List.map key) = others.map (List.map key))
    (apart : groups.Pairwise fun g h => ∀ a ∈ g, ∀ b ∈ h, key a < key b)
    (same : groups.flatten.Perm others.flatten) : List.Forall₂ List.Perm groups others := by
  induction groups generalizing others with
  | nil =>
    rw [List.map_nil, eq_comm, List.map_eq_nil_iff] at keys
    rw [keys]
    exact .nil
  | cons group rest ih =>
    obtain ⟨other, rest', rfl, equal, tails⟩ := List.map_eq_cons_iff.mp keys.symm
    obtain ⟨later, apart⟩ := List.pairwise_cons.mp apart
    let first (a : α) : Bool := decide (key a ∈ group.map key)
    have own : group.filter first = group :=
      List.filter_eq_self.mpr fun a member => decide_eq_true (List.mem_map_of_mem member)
    have own' : other.filter first = other :=
      List.filter_eq_self.mpr fun a member => decide_eq_true (equal ▸ List.mem_map_of_mem member)
    have strange : ∀ keys ∈ rest.map (List.map key), ∀ k ∈ keys, k ∉ group.map key := by
      rintro keys member k inside known
      obtain ⟨next, atNext, rfl⟩ := List.mem_map.mp member
      obtain ⟨b, atB, rfl⟩ := List.mem_map.mp inside
      obtain ⟨a, atA, value⟩ := List.mem_map.mp known
      have less := later next atNext a atA b atB
      omega
    have none : rest.flatten.filter first = [] := by
      refine List.filter_eq_nil_iff.mpr fun b member => ?_
      obtain ⟨next, atNext, atB⟩ := List.mem_flatten.mp member
      simpa [first] using strange _ (List.mem_map_of_mem atNext) _ (List.mem_map_of_mem atB)
    have none' : rest'.flatten.filter first = [] := by
      refine List.filter_eq_nil_iff.mpr fun b member => ?_
      obtain ⟨next, atNext, atB⟩ := List.mem_flatten.mp member
      simpa [first] using strange _ (tails ▸ List.mem_map_of_mem atNext) _ (List.mem_map_of_mem atB)
    rw [List.flatten_cons, List.flatten_cons] at same
    have heads : group.Perm other := by
      have both := same.filter first
      rwa [List.filter_append, List.filter_append, own, own', none, none', List.append_nil, List.append_nil] at both
    have others := (List.perm_append_left_iff group).mp (same.trans (heads.symm.append_right _))
    exact .cons heads (ih tails.symm apart others)

/-- Two orders of the same items are cut into groups of the same items, if both are sorted by the keys that they are
cut by. -/
theorem splitBy_perm (gap : Nat) {items others : List α} (same : items.Perm others)
    (sorted : items.Pairwise fun a b => key a ≤ key b) (sorted' : others.Pairwise fun a b => key a ≤ key b) :
    List.Forall₂ List.Perm (items.splitBy fun a b => decide (key b - key a ≤ gap))
      (others.splitBy fun a b => decide (key b - key a ≤ gap)) := by
  have keys : items.map key = others.map key := by
    refine List.Perm.eq_of_pairwise (fun a b _ _ => Nat.le_antisymm) ?_ ?_ (same.map key)
    · exact List.pairwise_map.mpr sorted
    · exact List.pairwise_map.mpr sorted'
  have cut := @map_splitBy α Nat key fun a b => decide (b - a ≤ gap)
  refine forall₂_perm_of_keys (by rw [cut, cut, keys]) ?_ ?_
  · exact (apart_splitBy gap sorted).imp fun apart a atA b atB =>
      Nat.lt_of_le_of_lt (Nat.le_add_right (key a) gap) (apart a atA b atB)
  · rwa [List.flatten_splitBy, List.flatten_splitBy]

end Splitting

namespace Clusterer

variable {hits others : List Hit}

/-- Hits of a time-group form clusters of the same hits in whatever order they came. -/
theorem groupClusters_perm (maxGap : UInt16) (same : hits.Perm others) :
    List.Forall₂ (fun c d => c.hits.Perm d.hits) (groupClusters maxGap hits) (groupClusters maxGap others) := by
  have sorted := (Hit.sortByCoordinate_perm hits).trans (same.trans (Hit.sortByCoordinate_perm others).symm)
  have groups : List.Forall₂ List.Perm ((Hit.sortByCoordinate hits).splitBy (Hit.adjacent maxGap))
      ((Hit.sortByCoordinate others).splitBy (Hit.adjacent maxGap)) :=
    splitBy_perm maxGap.toNat sorted ((Hit.sortByCoordinate_pairwise hits).imp UInt16.le_iff_toNat_le.mp)
      ((Hit.sortByCoordinate_pairwise others).imp UInt16.le_iff_toNat_le.mp)
  rw [groupClusters_eq, groupClusters_eq, List.forall₂_map_left_iff, List.forall₂_map_right_iff]
  simpa only [Cluster.hits_ofHits] using groups

/-- Hits in order of time form clusters of the same hits in whatever order hits of one time came. -/
theorem clustersOf_perm (config : ClusterConfig) (same : hits.Perm others)
    (ordered : hits.Pairwise fun a b => a.time ≤ b.time) (ordered' : others.Pairwise fun a b => a.time ≤ b.time) :
    List.Forall₂ (fun c d => c.hits.Perm d.hits) (clustersOf config hits) (clustersOf config others) := by
  have groups : List.Forall₂ List.Perm (hits.splitBy (Hit.inTime config.maxTimeGap))
      (others.splitBy (Hit.inTime config.maxTimeGap)) :=
    splitBy_perm config.maxTimeGap.toNat same (ordered.imp UInt64.le_iff_toNat_le.mp)
      (ordered'.imp UInt64.le_iff_toNat_le.mp)
  rw [clustersOf_eq, clustersOf_eq]
  exact List.rel_flatMap groups fun _ _ => groupClusters_perm config.maxCoordGap

end Clusterer

end EventFormation
