import EventFormation.Proofs.Event.Tracks

namespace EventFormation

/-- How many coordinates there are from the least to the greatest of some hits, both counted. -/
def Spans (hits : List Hit) (span : Nat) : Prop :=
  ∃ low high, Extremes (hits.map (·.coordinate)) low high ∧ low.toNat + span = high.toNat + 1

variable {hits others : List Hit} {m n : Nat}

theorem Spans.pos (spans : Spans hits n) : 1 ≤ n := by
  obtain ⟨low, high, extremes, ends⟩ := spans
  have ordered := UInt16.le_iff_toNat_le.mp (extremes.low_le high extremes.high_mem)
  omega

theorem Spans.mono (inner : Spans hits m) (outer : Spans others n) (subset : ∀ hit ∈ hits, hit ∈ others) : m ≤ n := by
  obtain ⟨low, high, extremes, ends⟩ := inner
  obtain ⟨low', high', extremes', ends'⟩ := outer
  have inside : ∀ value ∈ hits.map (·.coordinate), value ∈ others.map (·.coordinate) := by
    intro value member
    obtain ⟨hit, atHit, rfl⟩ := List.mem_map.mp member
    exact List.mem_map_of_mem (subset hit atHit)
  have below := UInt16.le_iff_toNat_le.mp (extremes'.low_le low (inside low extremes.low_mem))
  have above := UInt16.le_iff_toNat_le.mp (extremes'.le_high high (inside high extremes.high_mem))
  omega

theorem exists_extremes {α : Type} [LE α] [Min α] [Max α] [Std.IsLinearOrder α] [Std.LawfulOrderMin α]
    [Std.LawfulOrderMax α] {values : List α} (some : values ≠ []) : ∃ low high, Extremes values low high := by
  obtain ⟨low, least⟩ := Option.isSome_iff_exists.mp (List.isSome_min?_of_ne_nil some)
  obtain ⟨high, greatest⟩ := Option.isSome_iff_exists.mp (List.isSome_max?_of_ne_nil some)
  obtain ⟨low_mem, low_le⟩ := List.min?_eq_some_iff.mp least
  obtain ⟨high_mem, le_high⟩ := List.max?_eq_some_iff.mp greatest
  exact ⟨low, high, low_mem, low_le, high_mem, le_high⟩

theorem spans_coordinateSpan (some : hits ≠ []) : Spans hits (coordinateSpan hits) := by
  obtain ⟨low, high, extremes⟩ := exists_extremes (show hits.map (·.coordinate) ≠ [] by simpa using some)
  have ordered := UInt16.le_iff_toNat_le.mp (extremes.low_le high extremes.high_mem)
  refine ⟨low, high, extremes, ?_⟩
  rw [coordinateSpan_eq extremes]
  omega

theorem Cluster.Faithful.spans_coordSpan {c : Cluster} (faithful : c.Faithful) (some : c.hits ≠ []) :
    Spans c.hits c.coordSpan := by
  have extremes := faithful.coordinates some
  have ordered := UInt16.le_iff_toNat_le.mp (extremes.low_le _ extremes.high_mem)
  refine ⟨c.coordStart, c.coordEnd, extremes, ?_⟩
  rw [coordSpan, Cluster.isEmpty_eq_false_iff.mpr some, if_neg Bool.false_ne_true]
  omega

namespace Selection

/-- A hit is among those that the center is taken from. -/
def Prefers (selection : Selection) (hits : List Hit) (hit : Hit) : Prop :=
  match selection with
  | maxWeight => ∀ other ∈ hits, other.weight ≤ hit.weight
  | latestTime => ∀ other ∈ hits, other.time ≤ hit.time
  | all => True

instance (selection : Selection) (hits : List Hit) : DecidablePred (selection.Prefers hits) := fun hit =>
  match selection with
  | maxWeight => inferInstanceAs (Decidable (∀ other ∈ hits, other.weight ≤ hit.weight))
  | latestTime => inferInstanceAs (Decidable (∀ other ∈ hits, other.time ≤ hit.time))
  | all => inferInstanceAs (Decidable True)

theorem some_eq_max?_iff {α : Type} [LE α] [Max α] [Std.IsLinearOrder α] [Std.LawfulOrderMax α] (key : Hit → α)
    {hit : Hit} (member : hit ∈ hits) : some (key hit) = (hits.map key).max? ↔ ∀ other ∈ hits, key other ≤ key hit := by
  rw [eq_comm, List.max?_eq_some_iff, List.forall_mem_map, and_iff_right (List.mem_map_of_mem member)]

theorem of_eq_filter (selection : Selection) (hits : List Hit) :
    selection.of hits = hits.filter (selection.Prefers hits) := by
  cases selection with
  | maxWeight =>
    refine List.filter_congr fun hit member => ?_
    rw [Bool.eq_iff_iff, beq_iff_eq, decide_eq_true_eq]
    exact some_eq_max?_iff (·.weight) member
  | latestTime =>
    refine List.filter_congr fun hit member => ?_
    rw [Bool.eq_iff_iff, beq_iff_eq, decide_eq_true_eq]
    exact some_eq_max?_iff (·.time) member
  | all => exact (List.filter_eq_self.mpr fun hit _ => decide_eq_true trivial).symm

end Selection

namespace ReductionConfig

variable {config wider : ReductionConfig} {c : Cluster} {hit : Hit}

/-- A hit belongs to the last moments of a cluster: it is not too long before the end, and there are not too many
different times after it. -/
def InWindow (config : ReductionConfig) (c : Cluster) (hit : Hit) : Prop :=
  c.timeEnd.toNat - config.maxTimedif.toNat ≤ hit.time.toNat ∧ (timesAfter c.hits hit.time).card < config.maxTimebins

instance (config : ReductionConfig) (c : Cluster) : DecidablePred (config.InWindow c) := fun hit =>
  inferInstanceAs (Decidable (_ ∧ (timesAfter c.hits hit.time).card < config.maxTimebins))

theorem mem_window_iff : hit ∈ config.window c ↔ hit ∈ c.hits.filter (config.InWindow c) := by
  have earliest : (c.timeEnd.toNat - config.maxTimedif.toNat).toUInt64.toNat =
      c.timeEnd.toNat - config.maxTimedif.toNat :=
    UInt64.toNat_ofNat_of_lt' (Nat.lt_of_le_of_lt (Nat.sub_le _ _) c.timeEnd.toNat_lt)
  rw [mem_window, List.mem_filter, decide_eq_true_eq, Recent, UInt64.le_iff_toNat_le, earliest, InWindow]

theorem InWindow.widen (inside : config.InWindow c hit) (bins : config.maxTimebins ≤ wider.maxTimebins)
    (width : config.maxTimedif ≤ wider.maxTimedif) : wider.InWindow c hit := by
  have more := UInt64.le_iff_toNat_le.mp width
  exact ⟨(Nat.sub_le_sub_left more _).trans inside.1, inside.2.trans_le bins⟩

/-- The hits of the last time are always in the window. -/
theorem window_ne_nil (faithful : c.Faithful) (some : c.hits ≠ []) (bins : 1 ≤ config.maxTimebins) :
    c.hits.filter (config.InWindow c) ≠ [] := by
  obtain ⟨last, member, atEnd⟩ := faithful.exists_timeEnd some
  -- No time comes after the last one, so room for a single time is enough.
  have latest : timesAfter c.hits last.time = ∅ := by
    refine Finset.filter_eq_empty_iff.mpr fun time known => ?_
    obtain ⟨other, inside, rfl⟩ := List.mem_map.mp (List.mem_toFinset.mp known)
    rw [UInt64.not_lt, atEnd]
    exact faithful.time_le_timeEnd inside
  refine List.ne_nil_of_mem (List.mem_filter.mpr ⟨member, decide_eq_true ⟨?_, ?_⟩⟩)
  · rw [atEnd]
    exact Nat.sub_le _ _
  · rw [latest, Finset.card_empty]
    exact bins

/-- The counts of a cluster, each taken from the hits that it is meant for. -/
structure Measures (config : ReductionConfig) (c : Cluster) (extent : Extent) : Prop where
  used : extent.used = (c.hits.filter (config.selection.Prefers c.hits)).length
  lower : Spans (c.hits.filter (config.selection.Prefers c.hits)) extent.lower
  upper : Spans (c.hits.filter (config.InWindow c)) extent.upper

/-- No count is zero, and none is above that of the whole cluster. -/
structure Within (c : Cluster) (extent : Extent) : Prop where
  used : 1 ≤ extent.used ∧ extent.used ≤ c.hitCount
  lower : 1 ≤ extent.lower ∧ extent.lower ≤ c.coordSpan
  upper : 1 ≤ extent.upper ∧ extent.upper ≤ c.coordSpan

theorem reduceCluster_measures (faithful : c.Faithful) (some : c.hits ≠ []) (bins : 1 ≤ config.maxTimebins)
    (room : config.maxTimebins * 8 ≤ maxBlockBytes) :
    ∃ r, config.reduceCluster c = .ok r ∧ config.Measures c r.extent := by
  have enough : checkCapacity config.maxTimebins 8 = .ok () := if_pos room
  have window : coordinateSpan (config.window c) = coordinateSpan (c.hits.filter (config.InWindow c)) :=
    coordinateSpan_congr fun hit => mem_window_iff
  have selected := config.selection.of_ne_nil some
  rw [config.selection.of_eq_filter] at selected
  rw [reduceCluster_filled some, enough, config.selection.of_eq_filter, window]
  exact ⟨_, rfl, rfl, spans_coordinateSpan selected, spans_coordinateSpan (window_ne_nil faithful some bins)⟩

theorem Measures.within {extent : Extent} (measures : config.Measures c extent) (faithful : c.Faithful)
    (some : c.hits ≠ []) : Within c extent := by
  have whole := faithful.spans_coordSpan some
  have inner {keep : Hit → Bool} : ∀ hit ∈ c.hits.filter keep, hit ∈ c.hits := fun _ => List.mem_of_mem_filter
  have selected := config.selection.of_ne_nil some
  rw [config.selection.of_eq_filter, ← List.length_pos_iff, ← measures.used] at selected
  have most := List.length_filter_le (config.selection.Prefers c.hits) c.hits
  rw [← measures.used] at most
  refine ⟨⟨selected, ?_⟩, ⟨measures.lower.pos, measures.lower.mono whole inner⟩,
    ⟨measures.upper.pos, measures.upper.mono whole inner⟩⟩
  rw [Cluster.hitCount, Series.length_eq]
  exact most

/-- The counts of a cluster are those of its preferred hits and of its last moments, wherever these stand among the
hits, and its last moments only grow with the limits of the window. This holds as long as there is room for all the
times that a window may have; where there is none, no cluster with hits can be reduced. -/
theorem reduceCluster_measured (built : c.Built) (some : c.hits ≠ []) (bins : 1 ≤ config.maxTimebins) :
    (config.maxTimebins * 8 ≤ maxBlockBytes →
      ∃ r, config.reduceCluster c = .ok r ∧ config.Measures c r.extent ∧ Within c r.extent ∧
        (∀ d : Cluster, d.Built → d.hits.Perm c.hits →
          ∃ r', config.reduceCluster d = .ok r' ∧ r'.extent = r.extent) ∧
        ∀ wider : ReductionConfig, config.maxTimebins ≤ wider.maxTimebins → config.maxTimedif ≤ wider.maxTimedif →
          wider.maxTimebins * 8 ≤ maxBlockBytes → ∃ r', wider.reduceCluster c = .ok r' ∧ r.upper ≤ r'.upper) ∧
    (maxBlockBytes < config.maxTimebins * 8 → config.reduceCluster c = .error .capacityOverflow) := by
  have faithful := built.faithful
  refine ⟨fun room => ?_, fun full => ?_⟩
  · obtain ⟨r, run, measures⟩ := reduceCluster_measures faithful some bins room
    refine ⟨r, run, measures, measures.within faithful some, fun d built' same => ?_, fun wider more longer room' => ?_⟩
    · have extent : (config.reduceCluster d).map ReducedHit.extent = (config.reduceCluster c).map ReducedHit.extent :=
        reduceCluster_extent built'.faithful faithful same
      rw [run] at extent
      exact map_eq_ok_iff.mp extent
    · obtain ⟨r', run', measures'⟩ := reduceCluster_measures faithful some (bins.trans more) room'
      refine ⟨r', run', measures.upper.mono measures'.upper fun hit member => ?_⟩
      rw [List.mem_filter, decide_eq_true_eq] at member ⊢
      exact ⟨member.1, member.2.widen more longer⟩
  · have fails : checkCapacity config.maxTimebins 8 = .error .capacityOverflow := if_neg (Nat.not_le.mpr full)
    rw [reduceCluster_filled some, fails]
    rfl

/-- Two hits share the greatest weight and one time of three. The earliest hit comes into the window of one more tick. -/
theorem reduceCluster_measured_four :
    let c := Cluster.ofHits [⟨1, 0, 9, 5⟩, ⟨5, 0, 3, 7⟩, ⟨9, 0, 6, 2⟩, ⟨5, 0, 4, 7⟩]
    let config : ReductionConfig := {}
    let wider : ReductionConfig := { maxTimedif := 8 }
    ∃ r, config.reduceCluster c = .ok r ∧ r.extent = ⟨2, 2, 4⟩ ∧ config.Measures c r.extent ∧ Within c r.extent ∧
      ∃ r', wider.reduceCluster c = .ok r' ∧ r'.upper = 7 ∧ r.upper ≤ r'.upper := by
  intro c config wider
  have extents : ((config.reduceCluster c).toOption.map ReducedHit.extent,
      (wider.reduceCluster c).toOption.map ReducedHit.extent) = (some ⟨2, 2, 4⟩, some ⟨2, 2, 7⟩) := by decide +kernel
  have filled : c.hits ≠ [] := by decide
  obtain ⟨r, run, measures, within, _, grows⟩ :=
    (@reduceCluster_measured config c (.ofHits _) filled (by decide)).1 (by decide)
  obtain ⟨r', run', more⟩ := grows wider (by decide) (by decide) (by decide)
  rw [run, run'] at extents
  obtain ⟨extent, extent'⟩ := Prod.ext_iff.mp extents
  have upper := congrArg Extent.upper (Option.some_injective _ extent')
  exact ⟨r, run, Option.some_injective _ extent, measures, within, r', run', upper, more⟩

/-- A single hit needs no more than one time, and yet it cannot be reduced if more times are asked for than there is
room for. -/
theorem reduceCluster_not_measured_single :
    let c := Cluster.ofHits [⟨0, 0, 5, 1⟩]
    let config : ReductionConfig := { maxTimebins := 1152921504606846976 }
    c.Built ∧ c.hits ≠ [] ∧ 1 ≤ config.maxTimebins ∧ config.reduceCluster c = .error .capacityOverflow :=
  ⟨.ofHits _, by decide, by decide, rfl⟩

end ReductionConfig

end EventFormation
