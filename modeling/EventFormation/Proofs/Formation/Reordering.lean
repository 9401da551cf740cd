import EventFormation.Proofs.Cluster.Reordering
import EventFormation.Proofs.Formation.Batches
import EventFormation.Proofs.Matching.Reordering

namespace EventFormation

variable {config : FormationConfig} {hits others : List Hit}

theorem planeClusters_alike (same : hits.Perm others) {plane : UInt8} (tracked : plane ∈ config.planes) :
    List.Forall₂ (Cluster.Alike config.planes) (planeClusters config hits plane)
      (planeClusters config others plane) := by
  have sorted := (Hit.sortByTime_perm (hits.filter (·.plane == plane))).trans
    ((same.filter _).trans (Hit.sortByTime_perm (others.filter (·.plane == plane))).symm)
  refine forall₂_imp_mem (Clusterer.clustersOf_perm config.clusters sorted (Hit.sortByTime_pairwise _)
    (Hit.sortByTime_pairwise _)) fun c first d second pair => ?_
  exact ⟨planeClusters_tracked tracked c first, planeClusters_tracked tracked d second, pair⟩

theorem batchMatcher_alike (same : hits.Perm others) :
    List.Forall₂ (Cluster.Alike config.planes) (batchMatcher config hits).unmatched
      (batchMatcher config others).unmatched :=
  batchMatcher_related fun _ tracked => planeClusters_alike same tracked

/-- The events of a whole collection do not depend on the order in which its hits arrive, unless clusters are
compared by their centers. Where no window can be kept, both orders fault alike. -/
theorem formEvents_perm (valid : config.check = .ok ())
    (exact : ∀ maxDelta clusterTime, config.matching.policy ≠ .centerProximity maxDelta clusterTime)
    (limited : ClockLimited hits) (same : hits.Perm others) :
    ∃ batch batch', formEvents config hits = .ok batch ∧ formEvents config others = .ok batch' ∧
      (checkCapacity config.reduction.maxTimebins 8 = .ok () → ∃ formed, batch = .ok formed) ∧
      batch.map (List.map ReducedEvent.outline) = batch'.map (List.map ReducedEvent.outline) := by
  obtain ⟨_, matching, _⟩ := bind_eq_ok_iff.mp valid
  have distinct : config.planes.Nodup := (MatchConfig.planesChecked_of_check matching).distinct
  obtain ⟨m, run, _⟩ := batchMatcher_flush valid limited
  obtain ⟨spanning, _, events, rule⟩ := batchMatcher_delivered config hits
  obtain ⟨spanning', _, events', rule'⟩ := batchMatcher_delivered config others
  have clusters := @batchMatcher_alike config hits others same
  rw [← spanning] at distinct clusters
  obtain ⟨m', closed, closed', run', closing, closing', alike⟩ := Matcher.flush_alike
    (rule.symm ▸ MatchPolicy.impartial _ exact) distinct (rule'.trans rule.symm) (spanning'.trans spanning.symm)
    clusters run
  rw [events, List.nil_append] at closing
  rw [events', List.nil_append] at closing'
  refine ⟨m.events.mapM config.reduction.reduce, m'.events.mapM config.reduction.reduce, ?_, ?_, fun enough => ?_, ?_⟩
  · rw [formEvents_eq valid, run]
    rfl
  · rw [formEvents_eq valid, run']
    rfl
  · exact mapM_total fun e _ => ReductionConfig.reduce_total enough e
  · rw [closing, closing', map_mapM, map_mapM]
    refine mapM_forall₂ (alike.imp fun e e' both => ?_)
    exact ReductionConfig.reduce_outline_perm both.left both.right (both.spanning.trans both.spanning'.symm) both.hits

/-- Two orders of the hits of two tracks and of an untracked plane, with hits of one time and of one place. -/
theorem formEvents_perm_tracks :
    let config : FormationConfig := { matching := { policy := .gapProximity 100 } }
    let hits : List Hit := [⟨1, 0, 4, 1⟩, ⟨1, 0, 5, 2⟩, ⟨2, 0, 4, 3⟩, ⟨3, 1, 7, 1⟩, ⟨9, 5, 0, 1⟩, ⟨1000, 1, 8, 1⟩]
    let others : List Hit := [⟨1000, 1, 8, 1⟩, ⟨3, 1, 7, 1⟩, ⟨2, 0, 4, 3⟩, ⟨9, 5, 0, 1⟩, ⟨1, 0, 5, 2⟩, ⟨1, 0, 4, 1⟩]
    let outlines : List Outline := [⟨1, [some ⟨1, 1, 2⟩, some ⟨1, 1, 1⟩, none]⟩,
      ⟨1000, [some ⟨0, 0, 0⟩, some ⟨1, 1, 1⟩, none]⟩]
    ∃ batch batch', formEvents config hits = .ok batch ∧ formEvents config others = .ok batch' ∧
      batch.map (List.map ReducedEvent.outline) = .ok outlines ∧
      batch'.map (List.map ReducedEvent.outline) = .ok outlines := by
  intro config hits others outlines
  obtain ⟨batch, batch', formed, formed', _, same⟩ := @formEvents_perm config hits others rfl (by simp [config])
    (by decide +kernel) (by decide)
  have whole : ((formEvents config hits).toOption.bind fun batch =>
      (batch.map (List.map ReducedEvent.outline)).toOption) = some outlines := by decide +kernel
  rw [formed] at whole
  have whole := eq_ok_of_toOption whole
  exact ⟨batch, batch', formed, formed', whole, same.symm.trans whole⟩

end EventFormation
