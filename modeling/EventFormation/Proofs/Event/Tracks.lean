import EventFormation.Proofs.Cluster.Tracks
import EventFormation.Proofs.Event.Outline

namespace EventFormation

theorem coordinateSpan_eq {hits : List Hit} {low high : UInt16}
    (bounds : Extremes (hits.map (·.coordinate)) low high) : coordinateSpan hits = high.toNat - low.toNat + 1 := by
  rw [coordinateSpan, bounds.min?_eq, bounds.max?_eq]

namespace Selection

variable {hits : List Hit}

theorem length_of_le (selection : Selection) (hits : List Hit) : (selection.of hits).length ≤ hits.length := by
  cases selection with
  | maxWeight => exact List.length_filter_le _ _
  | latestTime => exact List.length_filter_le _ _
  | all => exact Nat.le_refl _

theorem filter_max_ne_nil {α : Type} [LE α] [Max α] [Std.IsLinearOrder α] [Std.LawfulOrderMax α] [BEq α]
    [LawfulBEq α] (key : Hit → α) (filled : hits ≠ []) :
    (hits.filter fun hit => some (key hit) == (hits.map key).max?) ≠ [] := by
  obtain ⟨greatest, atMost⟩ := Option.isSome_iff_exists.mp
    (List.isSome_max?_of_ne_nil (l := hits.map key) (by simpa using filled))
  obtain ⟨hit, member, value⟩ := List.mem_map.mp (List.max?_eq_some_iff.mp atMost).1
  exact List.ne_nil_of_mem (List.mem_filter.mpr ⟨member, by rw [atMost, value, beq_self_eq_true]⟩)

/-- There is always a hit to take the center from. -/
theorem of_ne_nil (selection : Selection) (filled : hits ≠ []) : selection.of hits ≠ [] := by
  cases selection with
  | maxWeight => exact filter_max_ne_nil (·.weight) filled
  | latestTime => exact filter_max_ne_nil (·.time) filled
  | all => exact filled

end Selection

variable {length time : Nat} {plane : UInt8}

namespace ReductionConfig

variable {config : ReductionConfig}

/-- As many times of a track are later than that of a hit as hits come after it. -/
theorem card_timesAfter (t : Track length) (inTime : time + length ≤ wordCount) {hit : Hit} {step : Nat}
    (inside : step < length) (atTime : hit.time.toNat = time + step) :
    (timesAfter (t.hits time plane) hit.time).card = length - (step + 1) := by
  have image : timesAfter (t.hits time plane) hit.time =
      (Finset.range (length - (step + 1))).image fun k => UInt64.ofNat (time + (step + 1 + k)) := by
    ext value
    simp only [timesAfter, Finset.mem_filter, List.mem_toFinset, List.mem_map, Finset.mem_image, Finset.mem_range]
    constructor
    · rintro ⟨⟨later, member, rfl⟩, after⟩
      obtain ⟨step', within, atLater, _⟩ := Track.mem_hits inTime member
      rw [UInt64.lt_iff_toNat_lt, atTime, atLater] at after
      refine ⟨step' - (step + 1), by omega, ?_⟩
      rw [Nat.add_sub_cancel' (by omega), ← atLater, UInt64.ofNat_toNat]
    · rintro ⟨k, within, rfl⟩
      have place : step + 1 + k < length := by omega
      obtain ⟨later, member, atLater, _⟩ := t.exists_hit plane inTime place
      refine ⟨⟨later, member, by rw [← atLater, UInt64.ofNat_toNat]⟩, ?_⟩
      rw [UInt64.lt_iff_toNat_lt, atTime, Track.toNat_time inTime place]
      omega
  rw [image, Finset.card_image_of_injOn, Finset.card_range]
  intro k within k' within' same
  rw [Finset.coe_range, Set.mem_Iio] at within within'
  have values := congrArg UInt64.toNat same
  simp only at values
  rw [Track.toNat_time inTime (by omega), Track.toNat_time inTime (by omega)] at values
  omega

/-- How many hits of a track are in the window. -/
def windowLength (config : ReductionConfig) (length : Nat) : Nat :=
  min length (min config.maxTimebins (config.maxTimedif.toNat + 1))

theorem recent_iff (config : ReductionConfig) (t : Track length) (plane : UInt8)
    (inTime : time + length ≤ wordCount) {hit : Hit} {step : Nat} (inside : step < length)
    (atTime : hit.time.toNat = time + step) :
    Recent config.maxTimebins (time + (length - 1) - config.maxTimedif.toNat).toUInt64 (t.hits time plane) hit ↔
      length ≤ step + config.windowLength length := by
  have earliest : (time + (length - 1) - config.maxTimedif.toNat).toUInt64.toNat =
      time + (length - 1) - config.maxTimedif.toNat :=
    UInt64.toNat_ofNat_of_lt' (Nat.lt_of_lt_of_le (by omega) inTime)
  rw [Recent, card_timesAfter t inTime inside atTime, UInt64.le_iff_toNat_le, earliest, atTime, windowLength]
  omega

theorem windowLength_le (config : ReductionConfig) (length : Nat) : config.windowLength length ≤ length :=
  Nat.min_le_left _ _

theorem windowLength_pos (some : 0 < length) (bins : 0 < config.maxTimebins) : 0 < config.windowLength length := by
  rw [windowLength]
  omega

variable {held : Cluster}

/-- The window holds the last hits of a track, whatever order they are in. -/
theorem coordinateSpan_window (t : Track length) (inTime : time + length ≤ wordCount) (some : 0 < length)
    (bins : 0 < config.maxTimebins) (faithful : held.Faithful) (same : held.hits.Perm (t.hits time plane)) :
    coordinateSpan (config.window held) = config.windowLength length := by
  have few := config.windowLength_le length
  have enough := config.windowLength_pos some bins
  have stop : held.timeEnd.toNat = time + (length - 1) := by
    rw [(faithful.unique t.faithful_cluster (by rwa [Track.hits_cluster])).2.2.2, t.timeEnd_cluster inTime some]
  have recent {hit : Hit} {step : Nat} (inside : step < length) (atTime : hit.time.toNat = time + step)
      (member : hit ∈ t.hits time plane) :
      hit ∈ config.window held ↔ length ≤ step + config.windowLength length := by
    rw [mem_window, same.mem_iff, stop, ← config.recent_iff t plane inTime inside atTime, Recent, Recent,
      timesAfter_perm same]
    exact and_iff_right member
  have bounds : Extremes ((config.window held).map (·.coordinate))
      (.ofNat (t.start + (length - config.windowLength length))) (.ofNat (t.start + (length - 1))) := by
    refine Extremes.of_interval (fun step => UInt16.ofNat (t.start + step)) (by omega) ?_ fun value => ?_
    · intro step step' before within
      rw [UInt16.le_iff_toNat_le, t.toNat_coordinate (by omega), t.toNat_coordinate (by omega)]
      omega
    rw [List.mem_map]
    constructor
    · rintro ⟨hit, atHit, rfl⟩
      have inTrack := same.mem_iff.mp (mem_window.mp atHit).1
      obtain ⟨step, within, atTime, atCoordinate, _⟩ := Track.mem_hits inTime inTrack
      have late := (recent within atTime inTrack).mp atHit
      exact ⟨step, by omega, by omega, by rw [← atCoordinate, UInt16.ofNat_toNat]⟩
    · rintro ⟨step, late, within, rfl⟩
      have inside : step < length := by omega
      obtain ⟨hit, atHit, atTime, atCoordinate⟩ := t.exists_hit plane inTime inside
      exact ⟨hit, (recent inside atTime atHit).mpr (by omega), by rw [← atCoordinate, UInt16.ofNat_toNat]⟩
  rw [coordinateSpan_eq bounds, t.toNat_coordinate (by omega), t.toNat_coordinate (by omega)]
  omega

theorem reduceCluster_track (enough : checkCapacity config.maxTimebins 8 = .ok ()) (t : Track length)
    (inTime : time + length ≤ wordCount) (some : 0 < length) (bins : 0 < config.maxTimebins)
    (faithful : held.Faithful) (same : held.hits.Perm (t.hits time plane)) :
    ∃ r, config.reduceCluster held = .ok r ∧ 1 ≤ r.used ∧ r.used ≤ length ∧ r.upper = config.windowLength length := by
  have count : held.hits.length = length := same.length_eq.trans t.length_hits
  have filled : held.hits ≠ [] := List.ne_nil_of_length_pos (by rwa [count])
  rw [reduceCluster_filled filled, enough]
  refine ⟨_, rfl, ?_, ?_, coordinateSpan_window t inTime some bins faithful same⟩
  · exact List.length_pos_iff.mpr (config.selection.of_ne_nil filled)
  · exact (config.selection.length_of_le held.hits).trans count.le

end ReductionConfig

/-- An event that was reduced from a track on each of some planes. -/
structure ReducedEvent.OfTracks (time planes length window : Nat) (r : ReducedEvent) : Prop where
  time : r.time.toNat = time
  present : ∀ place < planes, ∃ d, r.dimensions[place]? = some (some d) ∧ 1 ≤ d.used ∧ d.used ≤ length ∧
    d.upper = window

theorem ReductionConfig.reduce_tracks {config : ReductionConfig} {e : Event} {row : UInt8 → Track length}
    (enough : checkCapacity config.maxTimebins 8 = .ok ()) (sound : e.Sound)
    (inTime : time + length ≤ wordCount) (some : 0 < length) (bins : 0 < config.maxTimebins) (filled : e.planes ≠ [])
    (few : e.planes.length ≤ 3) (made : e.hits.Perm (e.planes.flatMap fun plane => (row plane).hits time plane)) :
    ∃ r, config.reduce e = .ok r ∧ r.OfTracks time e.planes.length length (config.windowLength length) := by
  have start : e.timeStart.toNat = time := by
    obtain ⟨plane, member⟩ := List.exists_mem_of_ne_nil e.planes filled
    obtain ⟨first, atFirst, value, _⟩ := (row plane).exists_hit plane inTime some
    have inEvent := made.mem_iff.mpr (List.mem_flatMap.mpr ⟨plane, member, atFirst⟩)
    have times := sound.times (List.ne_nil_of_mem inEvent)
    have early := UInt64.le_iff_toNat_le.mp (times.low_le _ (List.mem_map_of_mem inEvent))
    obtain ⟨hit, atHit, same⟩ := List.mem_map.mp times.low_mem
    obtain ⟨other, _, inTrack⟩ := List.mem_flatMap.mp (made.mem_iff.mp atHit)
    obtain ⟨step, _, late, _⟩ := Track.mem_hits inTime inTrack
    rw [← same] at early ⊢
    omega
  have planes : List.Forall₂ (fun plane (_ : UInt8) => ∃ d, config.reducePlane e plane = .ok d ∧ 1 ≤ d.used ∧
      d.used ≤ length ∧ d.upper = config.windowLength length) e.planes e.planes := by
    refine List.forall₂_same.mpr fun plane tracked => ?_
    obtain ⟨held, slot, faithful, hits⟩ := sound.slot_hits tracked
    have same : held.hits.Perm ((row plane).hits time plane) := by
      rw [hits, ← Track.filter_row sound.distinct row tracked]
      exact made.filter _
    rw [reducePlane_eq slot]
    exact reduceCluster_track enough (row plane) inTime some bins faithful same
  obtain ⟨dimensions, run, all⟩ := mapM_total_of planes
  refine ⟨_, by rw [reduce, run]; rfl, start, fun place inside => ?_⟩
  have inside' : place < dimensions.length := all.length_eq ▸ inside
  have shown : [dimensions[0]?, dimensions[1]?, dimensions[2]?][place]? = Option.some dimensions[place]? := by
    obtain rfl | rfl | rfl : place = 0 ∨ place = 1 ∨ place = 2 := by omega
    all_goals rfl
  refine ⟨dimensions[place], ?_, all.get inside inside'⟩
  show [dimensions[0]?, dimensions[1]?, dimensions[2]?][place]? = _
  rw [shown, List.getElem?_eq_getElem inside']

end EventFormation
