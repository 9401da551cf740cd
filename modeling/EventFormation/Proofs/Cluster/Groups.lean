import EventFormation.Clusterer
import EventFormation.Proofs.Cluster.Bounds

namespace EventFormation.Clusterer

theorem splitAtGap_hits (maxGap : UInt16) (done : Series Cluster) (current : Cluster) (hits : List Hit) :
    (splitAtGap maxGap done current hits).toList.flatMap Cluster.hits =
      done.toList.flatMap Cluster.hits ++ (current.hits ++ hits) := by
  induction hits generalizing done current with
  | nil =>
    unfold splitAtGap
    split
    · rename_i none
      simp [Cluster.isEmpty_iff.mp none]
    · simp
  | cons hit rest ih =>
    unfold splitAtGap
    split
    · rw [ih]
      simp
    · rw [ih]
      simp

/-- What is open holds hits as soon as there is a hit to come. -/
theorem splitAtGap_built {maxGap : UInt16} {done : Series Cluster} {current : Cluster} {hits : List Hit}
    (started : current.Built) {c : Cluster} (member : c ∈ (splitAtGap maxGap done current hits).toList) :
    c ∈ done.toList ∨ c.Built ∧ c.hits ≠ [] := by
  induction hits generalizing done current with
  | nil =>
    unfold splitAtGap at member
    split at member
    · exact Or.inl member
    · rename_i some
      rw [Series.toList_push, List.mem_append, List.mem_singleton] at member
      rcases member with old | rfl
      · exact Or.inl old
      · exact Or.inr ⟨started, fun none => some (Cluster.isEmpty_iff.mpr none)⟩
  | cons hit rest ih =>
    unfold splitAtGap at member
    split at member
    · rename_i gap
      rcases ih (.insert hit .empty) member with old | new
      · rw [Series.toList_push, List.mem_append, List.mem_singleton] at old
        rcases old with old | rfl
        · exact Or.inl old
        · simp only [Bool.and_eq_true, Bool.not_eq_true', Cluster.isEmpty_eq_false_iff] at gap
          exact Or.inr ⟨started, gap.1⟩
      · exact Or.inr new
    · exact ih (.insert hit started) member

theorem groupClusters_hits (maxGap : UInt16) (group : List Hit) :
    (groupClusters maxGap group).flatMap Cluster.hits = Hit.sortByCoordinate group := by
  simp [groupClusters, splitAtGap_hits]

theorem groupClusters_built {maxGap : UInt16} {group : List Hit} {c : Cluster}
    (member : c ∈ groupClusters maxGap group) : c.Built ∧ c.hits ≠ [] := by
  rcases splitAtGap_built .empty member with none | built
  · cases none
  · exact built

theorem completed_hits_perm (c : Clusterer) : (c.completed.flatMap Cluster.hits).Perm c.group := by
  rw [completed, groupClusters_hits]
  exact Hit.sortByCoordinate_perm c.group

end EventFormation.Clusterer
