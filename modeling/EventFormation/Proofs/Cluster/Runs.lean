import EventFormation.Proofs.Cluster.Groups
import Mathlib.Data.List.SplitBy

namespace EventFormation

/-- The second hit comes early enough to join the time-group that the first one is the last of. -/
def Hit.inTime (maxGap : UInt64) (a b : Hit) : Bool := decide (ticksSince a.time b.time ≤ maxGap.toNat)

/-- The second hit is near enough to join the cluster that the first one is the last of. -/
def Hit.adjacent (maxGap : UInt16) (a b : Hit) : Bool :=
  decide (b.coordinate.toNat - a.coordinate.toNat ≤ maxGap.toNat)

theorem isChain_concat {α : Type} {r : α → α → Prop} {items : List α} {item : α} (chain : items.IsChain r)
    (last : ∀ other ∈ items.getLast?, r other item) : (items ++ [item]).IsChain r :=
  List.isChain_append.mpr ⟨chain, List.isChain_singleton item, by simpa using last⟩

namespace Clusterer

theorem config_insert (c : Clusterer) (hit : Hit) : (c.insert hit).config = c.config := by
  unfold insert
  split <;> rfl

theorem startsGroup_iff (c : Clusterer) (hit : Hit) :
    c.startsGroup hit = true ↔ ∃ last, c.group.getLast? = some last ∧ Hit.inTime c.config.maxTimeGap last hit = false := by
  rw [startsGroup_eq, Option.any_eq_true]
  simp [Hit.inTime]

/-- The time-groups of hits are cut where two consecutive ones are too far apart. -/
theorem clusters_insertAll_flush {c : Clusterer} (hits : List Hit)
    (together : c.group.IsChain fun a b => Hit.inTime c.config.maxTimeGap a b = true) :
    (c.insertAll hits).flush.clusters = c.clusters ++
      ((c.group ++ hits).splitBy (Hit.inTime c.config.maxTimeGap)).flatMap (groupClusters c.config.maxCoordGap) := by
  induction hits generalizing c with
  | nil =>
    rw [insertAll, List.foldl_nil, clusters_flush, List.append_nil, completed]
    by_cases none : c.group = []
    · rw [none]
      rfl
    · rw [List.splitBy_of_isChain none together, List.flatMap_singleton]
  | cons hit rest ih =>
    have config := c.config_insert hit
    show ((c.insert hit).insertAll rest).flush.clusters = _
    by_cases starts : c.startsGroup hit = true
    · obtain ⟨last, atLast, late⟩ := (c.startsGroup_iff hit).mp starts
      have group : (c.insert hit).group = [hit] := by rw [group_insert, if_pos starts, List.nil_append]
      have clusters : (c.insert hit).clusters = c.clusters ++ c.completed := by rw [clusters_insert, if_pos starts]
      have filled : c.group ≠ [] := List.ne_nil_of_mem (List.mem_of_getLast? atLast)
      rw [ih (by rw [group]; exact List.isChain_singleton hit), group, clusters, config]
      have cut : ∀ x ∈ c.group.getLast?, Hit.inTime c.config.maxTimeGap x hit = false := by
        rintro x member
        rw [atLast, Option.mem_some_iff] at member
        exact member ▸ late
      rw [List.splitBy_append_cons rest cut, List.splitBy_of_isChain filled together, List.flatMap_append,
        List.flatMap_singleton, List.append_assoc]
      rfl
    · have group : (c.insert hit).group = c.group ++ [hit] := by rw [group_insert, if_neg starts]
      have clusters : (c.insert hit).clusters = c.clusters := by
        rw [clusters_insert, if_neg starts, List.append_nil]
      rw [ih ?_, group, clusters, config, List.append_assoc, List.singleton_append]
      rw [group, config]
      refine isChain_concat together fun last atLast => ?_
      by_contra late
      exact starts ((c.startsGroup_iff hit).mpr ⟨last, atLast, by simpa using late⟩)

theorem clustersOf_eq (config : ClusterConfig) (hits : List Hit) :
    clustersOf config hits =
      (hits.splitBy (Hit.inTime config.maxTimeGap)).flatMap (groupClusters config.maxCoordGap) := by
  have all := @clusters_insertAll_flush { config } hits List.isChain_nil
  exact all

end Clusterer

theorem Cluster.ofHits_concat (hits : List Hit) (hit : Hit) : ofHits (hits ++ [hit]) = (ofHits hits).insert hit :=
  List.foldl_append

/-- The end of hits in order of coordinates is the last of them. -/
theorem Cluster.coordEnd_ofHits {hits : List Hit} {last : Hit}
    (sorted : hits.Pairwise fun a b => a.coordinate ≤ b.coordinate) (atLast : hits.getLast? = some last) :
    (ofHits hits).coordEnd = last.coordinate := by
  have inside := List.mem_of_getLast? atLast
  obtain ⟨first, rfl⟩ := List.getLast?_eq_some_iff.mp atLast
  have bounds := (Built.ofHits (first ++ [last])).faithful.coordinates (by simp)
  rw [hits_ofHits] at bounds
  obtain ⟨hit, member, highest⟩ := List.mem_map.mp bounds.high_mem
  have high := bounds.le_high _ (List.mem_map_of_mem inside)
  rw [← highest] at high ⊢
  refine UInt16.le_antisymm ?_ high
  rcases List.mem_append.mp member with early | same
  · exact (List.pairwise_append.mp sorted).2.2 hit early last (List.mem_singleton_self last)
  · rw [List.mem_singleton.mp same]
    exact UInt16.le_refl _

namespace Clusterer

theorem toList_splitAtGap_eq {maxGap : UInt16} {taken rest : List Hit} {done : Series Cluster}
    (sorted : (taken ++ rest).Pairwise fun a b => a.coordinate ≤ b.coordinate)
    (together : taken.IsChain fun a b => Hit.adjacent maxGap a b = true) :
    (splitAtGap maxGap done (Cluster.ofHits taken) rest).toList =
      done.toList ++ ((taken ++ rest).splitBy (Hit.adjacent maxGap)).map Cluster.ofHits := by
  induction rest generalizing taken done with
  | nil =>
    rw [List.append_nil]
    by_cases none : taken = []
    · rw [none]
      simp [splitAtGap, Cluster.ofHits, Cluster.insertAll, Cluster.isEmpty_iff]
    · rw [splitAtGap, if_neg (by simpa [Cluster.isEmpty_iff] using none), List.splitBy_of_isChain none together]
      simp
  | cons hit rest ih =>
    have low := (List.pairwise_append.mp sorted).1
    rw [splitAtGap]
    split
    · rename_i gap
      rw [Bool.and_eq_true, Bool.not_eq_true', Cluster.isEmpty_eq_false_iff, Cluster.hits_ofHits,
        decide_eq_true_eq] at gap
      obtain ⟨filled, far⟩ := gap
      have cut : ∀ last ∈ taken.getLast?, Hit.adjacent maxGap last hit = false := by
        intro last atLast
        rw [Cluster.coordEnd_ofHits low atLast] at far
        exact decide_eq_false (Nat.not_le.mpr far)
      have single : Cluster.empty.insert hit = Cluster.ofHits [hit] := rfl
      rw [single, ih (List.pairwise_append.mp sorted).2.1 (List.isChain_singleton hit),
        List.splitBy_append_cons rest cut, List.splitBy_of_isChain filled together]
      simp
    · rename_i near
      rw [← Cluster.ofHits_concat, ih (by simpa using sorted) ?_, List.append_assoc, List.singleton_append]
      refine isChain_concat together fun last atLast => ?_
      have filled : taken ≠ [] := List.ne_nil_of_mem (List.mem_of_getLast? atLast)
      by_contra far
      refine near ?_
      rw [Bool.and_eq_true, Bool.not_eq_true', Cluster.isEmpty_eq_false_iff, Cluster.hits_ofHits,
        decide_eq_true_eq, Cluster.coordEnd_ofHits low atLast]
      rw [Hit.adjacent, decide_eq_true_eq, Nat.not_le] at far
      exact ⟨filled, far⟩

/-- The clusters of a time-group are cut where two neighbours are too far apart. -/
theorem groupClusters_eq (maxGap : UInt16) (group : List Hit) :
    groupClusters maxGap group = ((Hit.sortByCoordinate group).splitBy (Hit.adjacent maxGap)).map Cluster.ofHits :=
  toList_splitAtGap_eq (Hit.sortByCoordinate_pairwise group) List.isChain_nil

end Clusterer

end EventFormation
