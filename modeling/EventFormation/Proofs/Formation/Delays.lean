import EventFormation.Proofs.Formation.Batches
import EventFormation.Proofs.Matching.Delays

namespace EventFormation

variable {ticks : Int} {config : FormationConfig} {hits others : List Hit}

theorem planeClusters_delays (same : List.Forall₂ (Hit.Delays ticks) hits others) {plane : UInt8}
    (tracked : plane ∈ config.planes) :
    List.Forall₂ (Cluster.Delays ticks config.planes) (planeClusters config hits plane)
      (planeClusters config others plane) := by
  have sorted := Hit.sortByTime_delays (Hit.filter_plane_delays same plane)
  refine forall₂_imp_mem (Clusterer.clustersOf_delays config.clusters sorted) fun c first d second pair => ?_
  exact ⟨planeClusters_tracked tracked c first, planeClusters_tracked tracked d second, pair⟩

/-- If the clock is set forward or back, the events of a whole collection come as much later or earlier and are the
same otherwise, unless clusters are compared by their centers. Where no window can be kept, both clocks fault alike. -/
theorem formEvents_delayed (valid : config.check = .ok ())
    (exact : ∀ maxDelta clusterTime, config.matching.policy ≠ .centerProximity maxDelta clusterTime)
    (limited : ClockLimited hits)
    (fits : ∀ hit ∈ hits, 0 ≤ hit.time.toNat + ticks ∧ hit.time.toNat + ticks < wordCount) :
    ∃ batch batch', formEvents config hits = .ok batch ∧ formEvents config (hits.map (Hit.delayed ticks)) = .ok batch' ∧
      (checkCapacity config.reduction.maxTimebins 8 = .ok () → ∃ formed, batch = .ok formed) ∧
      batch' = batch.map (List.map (ReducedEvent.delayed ticks)) ∧
      ∀ formed, batch = .ok formed → ∀ e ∈ formed, Delay ticks e.time (e.delayed ticks).time := by
  obtain ⟨_, matching, _⟩ := bind_eq_ok_iff.mp valid
  have distinct : config.planes.Nodup := (MatchConfig.planesChecked_of_check matching).distinct
  obtain ⟨events, events', run, run', later, filled⟩ := formEvents_related valid limited
    (MatchPolicy.correspondence distinct exact) fun _ tracked => planeClusters_delays (Hit.forall₂_delays fits) tracked
  refine ⟨_, _, run, run', fun enough => mapM_total fun e _ => ReductionConfig.reduce_total enough e, ?_, ?_⟩
  · rw [map_mapM]
    refine mapM_forall₂ (List.Forall₂.flip (forall₂_imp_mem later fun e member e' _ both => ?_))
    exact ReductionConfig.reduce_delays both (filled e member)
  · intro formed done reduced member
    obtain ⟨e, atEvent, made⟩ := forall₂_mem_right (forall₂_of_mapM done) member
    obtain ⟨e', _, both⟩ := forall₂_mem_left later atEvent
    exact ReductionConfig.delay_of_reduce both (filled e atEvent) made

/-- Two tracks and a hit of an untracked plane, for a clock that is set forward until the last hit has its last
reading. The reach of no event goes any further then. -/
theorem formEvents_delayed_tracks :
    let config : FormationConfig := { matching := { policy := .gapProximity 100 } }
    let hits : List Hit := [⟨1, 0, 4, 1⟩, ⟨1, 0, 5, 2⟩, ⟨3, 1, 7, 1⟩, ⟨9, 5, 0, 1⟩, ⟨1000, 1, 8, 1⟩]
    let ticks : Int := lastTick - 1000
    ∃ formed, formEvents config hits = .ok (.ok formed) ∧
      formEvents config (hits.map (Hit.delayed ticks)) = .ok (.ok (formed.map (ReducedEvent.delayed ticks))) ∧
      formed.map ReducedEvent.outline = [⟨1, [some ⟨1, 1, 2⟩, some ⟨1, 1, 1⟩, none]⟩,
        ⟨1000, [some ⟨0, 0, 0⟩, some ⟨1, 1, 1⟩, none]⟩] := by
  intro config hits ticks
  obtain ⟨batch, batch', formed, formed', _, same, _⟩ := @formEvents_delayed ticks config hits rfl (by simp [config])
    (by decide +kernel) (by decide +kernel)
  have whole : ((formEvents config hits).toOption.bind fun batch =>
      (batch.map (List.map ReducedEvent.outline)).toOption) = some [⟨1, [some ⟨1, 1, 2⟩, some ⟨1, 1, 1⟩, none]⟩,
        ⟨1000, [some ⟨0, 0, 0⟩, some ⟨1, 1, 1⟩, none]⟩] := by decide +kernel
  rw [formed] at whole
  obtain ⟨reduced, done, outlines⟩ := map_eq_ok_iff.mp (eq_ok_of_toOption whole)
  rw [same, done] at formed'
  rw [done] at formed
  exact ⟨reduced, formed, formed', outlines⟩

end EventFormation
