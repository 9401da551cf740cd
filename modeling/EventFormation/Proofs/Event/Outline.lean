import EventFormation.Proofs.Event.Slots
import EventFormation.Proofs.Fault
import EventFormation.Reduction
import Mathlib.Data.Finset.Card
import Mathlib.Data.Finset.Image

namespace EventFormation

/-- All of a dimension but the position. -/
structure Extent where
  used : Nat
  lower : Nat
  upper : Nat
  deriving Repr, DecidableEq

def ReducedHit.extent (r : ReducedHit) : Extent := ⟨r.used, r.lower, r.upper⟩

/-- All of a reduced event that does not depend on the order of its hits. -/
structure Outline where
  time : UInt64
  dimensions : List (Option Extent)
  deriving Repr, DecidableEq

def ReducedEvent.outline (e : ReducedEvent) : Outline := ⟨e.time, e.dimensions.map (·.map ReducedHit.extent)⟩

section Extremes

variable {α : Type} [LE α] [Std.IsLinearOrder α] {as bs : List α}

theorem max?_congr [Max α] [Std.LawfulOrderMax α] (same : ∀ a, a ∈ as ↔ a ∈ bs) : as.max? = bs.max? := by
  refine Option.ext fun greatest => ?_
  rw [List.max?_eq_some_iff, List.max?_eq_some_iff]
  simp only [same]

theorem min?_congr [Min α] [Std.LawfulOrderMin α] (same : ∀ a, a ∈ as ↔ a ∈ bs) : as.min? = bs.min? := by
  refine Option.ext fun least => ?_
  rw [List.min?_eq_some_iff, List.min?_eq_some_iff]
  simp only [same]

end Extremes

variable {hits others : List Hit}

theorem coordinateSpan_congr (same : ∀ hit, hit ∈ hits ↔ hit ∈ others) :
    coordinateSpan hits = coordinateSpan others := by
  have coordinates : ∀ a, a ∈ hits.map (·.coordinate) ↔ a ∈ others.map (·.coordinate) := by
    intro a
    simp only [List.mem_map, same]
  rw [coordinateSpan, coordinateSpan, min?_congr coordinates, max?_congr coordinates]

theorem Selection.of_perm (selection : Selection) (same : hits.Perm others) :
    (selection.of hits).Perm (selection.of others) := by
  have weights : (hits.map (·.weight)).max? = (others.map (·.weight)).max? :=
    max?_congr fun a => (same.map _).mem_iff
  have times : (hits.map (·.time)).max? = (others.map (·.time)).max? :=
    max?_congr fun a => (same.map _).mem_iff
  cases selection with
  | maxWeight =>
    simp only [Selection.of, weights]
    exact same.filter _
  | latestTime =>
    simp only [Selection.of, times]
    exact same.filter _
  | all => exact same

namespace ReductionConfig

/-- The different times of hits that are later than this one. -/
def timesAfter (hits : List Hit) (time : UInt64) : Finset UInt64 :=
  (hits.map (·.time)).toFinset.filter fun other => time < other

/-- A hit belongs to the last moments of some hits. -/
def Recent (maxTimebins : Nat) (earliest : UInt64) (hits : List Hit) (hit : Hit) : Prop :=
  earliest ≤ hit.time ∧ (timesAfter hits hit.time).card < maxTimebins

instance (maxTimebins : Nat) (earliest : UInt64) (hits : List Hit) :
    DecidablePred (Recent maxTimebins earliest hits) :=
  fun hit => inferInstanceAs (Decidable (earliest ≤ hit.time ∧ (timesAfter hits hit.time).card < maxTimebins))

theorem timesAfter_perm (same : hits.Perm others) (time : UInt64) : timesAfter hits time = timesAfter others time := by
  unfold timesAfter
  rw [List.toFinset_eq_of_perm _ _ (same.map _)]

theorem timesAfter_subset {earlier later : UInt64} (ordered : earlier ≤ later) :
    timesAfter hits later ⊆ timesAfter hits earlier := by
  intro time member
  rw [timesAfter, Finset.mem_filter] at member ⊢
  exact ⟨member.1, UInt64.lt_of_le_of_lt ordered member.2⟩

/-- If a hit is too early, so is every hit before it. -/
theorem Recent.of_le {maxTimebins : Nat} {earliest : UInt64} {hit later : Hit}
    (recent : Recent maxTimebins earliest hits hit) (ordered : hit.time ≤ later.time) :
    Recent maxTimebins earliest hits later :=
  ⟨UInt64.le_trans recent.1 ordered, (Finset.card_le_card (timesAfter_subset ordered)).trans_lt recent.2⟩

/-- Where the latest of the hits so far is not of the same time, all of them are later. -/
theorem taken_later {taken rest : List Hit} {hit : Hit}
    (sorted : (taken ++ hit :: rest).Pairwise fun a b => b.time ≤ a.time)
    (new : ∀ last, taken.getLast? = some last → last.time ≠ hit.time) :
    ∀ other ∈ taken, hit.time < other.time := by
  intro other member
  obtain ⟨inner, _, cross⟩ := List.pairwise_append.mp sorted
  obtain ⟨first, last, rfl⟩ := (List.eq_nil_or_concat' taken).resolve_left (List.ne_nil_of_mem member)
  have fresh := new last (by simp)
  have low := cross last (by simp) hit List.mem_cons_self
  have between : last.time ≤ other.time := by
    rcases List.mem_append.mp member with early | same
    · exact (List.pairwise_append.mp inner).2.2 other early last (by simp)
    · rw [List.mem_singleton.mp same]
      exact UInt64.le_refl _
  exact UInt64.lt_of_lt_of_le (UInt64.lt_of_le_of_ne low fresh.symm) between

/-- The times after that of a hit are the times of the hits before it, if those are all later. -/
theorem timesAfter_eq {taken rest : List Hit} {hit : Hit}
    (sorted : (taken ++ hit :: rest).Pairwise fun a b => b.time ≤ a.time)
    (later : ∀ other ∈ taken, hit.time < other.time) :
    timesAfter (taken ++ hit :: rest) hit.time = (taken.map (·.time)).toFinset := by
  obtain ⟨_, behind, _⟩ := List.pairwise_append.mp sorted
  ext time
  simp only [timesAfter, Finset.mem_filter, List.mem_toFinset, List.mem_map, List.mem_append, List.mem_cons]
  constructor
  · rintro ⟨⟨other, early | rfl | late, rfl⟩, after⟩
    · exact ⟨other, early, rfl⟩
    · exact absurd after (UInt64.lt_irrefl _)
    · exact absurd ((List.pairwise_cons.mp behind).1 other late) (UInt64.not_le.mpr after)
  · rintro ⟨other, early, rfl⟩
    exact ⟨⟨other, Or.inl early, rfl⟩, later other early⟩

theorem times_concat (taken : List Hit) (hit : Hit) :
    ((taken ++ [hit]).map (·.time)).toFinset = insert hit.time (taken.map (·.time)).toFinset := by
  ext time
  simp [eq_comm]

theorem card_times_repeated {taken : List Hit} {hit last : Hit} (inside : last ∈ taken) (equal : last.time = hit.time) :
    ((taken ++ [hit]).map (·.time)).toFinset.card = (taken.map (·.time)).toFinset.card := by
  have known : hit.time ∈ (taken.map (·.time)).toFinset := by
    rw [List.mem_toFinset, ← equal]
    exact List.mem_map_of_mem inside
  rw [times_concat, Finset.insert_eq_self.mpr known]

theorem card_times_new {taken : List Hit} {hit : Hit} (later : ∀ other ∈ taken, hit.time < other.time) :
    ((taken ++ [hit]).map (·.time)).toFinset.card = (taken.map (·.time)).toFinset.card + 1 := by
  have unknown : hit.time ∉ (taken.map (·.time)).toFinset := by
    rw [List.mem_toFinset]
    intro known
    obtain ⟨other, member, same⟩ := List.mem_map.mp known
    exact UInt64.lt_irrefl _ (same ▸ later other member)
  rw [times_concat, Finset.card_insert_of_notMem unknown]

/-- No hit ahead is recent where the next one is not. -/
theorem filter_recent_eq_nil {maxTimebins : Nat} {earliest : UInt64} {ahead : List Hit} {hit : Hit}
    (behind : ∀ other ∈ ahead, other.time ≤ hit.time) (old : ¬ Recent maxTimebins earliest hits hit) :
    ahead.filter (Recent maxTimebins earliest hits) = [] := by
  refine List.filter_eq_nil_iff.mpr fun other member again => old ?_
  exact (of_decide_eq_true again).of_le (behind other member)

/-- The walk back in time takes the hits of the last moments. The hits taken so far and those ahead
are all of them, latest first. -/
theorem windowFrom_eq_filter {maxTimebins times : Nat} {earliest : UInt64} {taken : Series Hit} {ahead : List Hit}
    (whole : taken.toList ++ ahead = hits) (sorted : hits.Pairwise fun a b => b.time ≤ a.time)
    (counted : (taken.toList.map (·.time)).toFinset.card = times)
    (recent : ∀ hit ∈ taken.toList, Recent maxTimebins earliest hits hit) :
    (windowFrom maxTimebins earliest taken times ahead).toList =
      taken.toList ++ ahead.filter (Recent maxTimebins earliest hits) := by
  induction ahead generalizing taken times with
  | nil => simp [windowFrom]
  | cons hit rest ih =>
    have behind : ∀ other ∈ hit :: rest, other.time ≤ hit.time := by
      rw [← whole, List.pairwise_append] at sorted
      intro other member
      rcases List.mem_cons.mp member with rfl | late
      · exact UInt64.le_refl _
      · exact (List.pairwise_cons.mp sorted.2.1).1 other late
    have goes {times : Nat} (fresh : Recent maxTimebins earliest hits hit)
        (counted : ((taken.toList ++ [hit]).map (·.time)).toFinset.card = times) :
        (windowFrom maxTimebins earliest (taken.push hit) times rest).toList =
          taken.toList ++ (hit :: rest).filter (Recent maxTimebins earliest hits) := by
      rw [List.filter_cons_of_pos (by simpa using fresh)]
      have later := @ih times (taken.push hit) (by simp [whole]) (by simpa using counted) ?_
      · simpa using later
      · intro other member
        rw [Series.toList_push, List.mem_append] at member
        rcases member with old | new
        · exact recent other old
        · rw [List.mem_singleton.mp new]
          exact fresh
    unfold windowFrom
    split
    · rename_i early
      rw [filter_recent_eq_nil behind fun fresh => UInt64.not_le.mpr early fresh.1, List.append_nil]
    rename_i inTime
    rw [UInt64.not_lt] at inTime
    rw [Series.last?_eq]
    split
    · rename_i repeated
      obtain ⟨last, atLast, same⟩ := (Option.any_eq_true _ _).mp repeated
      have equal : last.time = hit.time := by simpa using same
      have inside : last ∈ taken.toList := List.mem_of_getLast? atLast
      refine goes ((recent last inside).of_le (UInt64.le_of_eq equal)) ?_
      rw [card_times_repeated inside equal, counted]
    · rename_i new
      have fresh : ∀ last, taken.toList.getLast? = some last → last.time ≠ hit.time := by
        intro last atLast
        simpa [atLast] using new
      have later := taken_later (whole ▸ sorted) fresh
      have after := timesAfter_eq (whole ▸ sorted) later
      rw [whole] at after
      split
      · rename_i full
        have old : ¬ Recent maxTimebins earliest hits hit := by
          intro fresh
          have few := fresh.2
          rw [after, counted] at few
          omega
        rw [filter_recent_eq_nil behind old, List.append_nil]
      · rename_i room
        refine goes ⟨inTime, ?_⟩ ?_
        · rw [after, counted]
          omega
        · rw [card_times_new later, counted]

/-- The window of a cluster holds its hits of the last moments, wherever they are in the cluster. -/
theorem mem_window {config : ReductionConfig} {c : Cluster} {hit : Hit} :
    hit ∈ config.window c ↔ hit ∈ c.hits ∧
      Recent config.maxTimebins (c.timeEnd.toNat - config.maxTimedif.toNat).toUInt64 c.hits hit := by
  have sorted : (Hit.sortByTime c.hits).reverse.Pairwise fun a b => b.time ≤ a.time :=
    List.pairwise_reverse.mpr (Hit.sortByTime_pairwise c.hits)
  have same : (Hit.sortByTime c.hits).reverse.Perm c.hits :=
    (List.reverse_perm _).trans (Hit.sortByTime_perm c.hits)
  rw [window, windowFrom_eq_filter (by simp) sorted (by simp) (by simp), Series.toList_empty, List.nil_append,
    List.mem_filter, same.mem_iff, decide_eq_true_eq, Recent, Recent, timesAfter_perm same]

variable {config : ReductionConfig} {c d : Cluster}

theorem reduceCluster_filled (filled : c.hits ≠ []) :
    config.reduceCluster c = (checkCapacity config.maxTimebins 8).map fun _ =>
      { center := config.center (config.selection.of c.hits)
        lower := coordinateSpan (config.selection.of c.hits)
        upper := coordinateSpan (config.window c)
        used := (config.selection.of c.hits).length } := by
  unfold reduceCluster
  rw [Cluster.isEmpty_eq_false_iff.mpr filled]
  simp only [Bool.false_eq_true, if_false]
  cases checkCapacity config.maxTimebins 8 with
  | error fault => rfl
  | ok enough => rfl

/-- What is counted for a cluster does not depend on the order of its hits. -/
theorem reduceCluster_extent (first : c.Faithful) (second : d.Faithful) (same : c.hits.Perm d.hits) :
    (config.reduceCluster c).map ReducedHit.extent = (config.reduceCluster d).map ReducedHit.extent := by
  by_cases none : c.hits = []
  · rw [first.blank none, second.blank (by rw [none] at same; exact same.symm.eq_nil)]
  have some : d.hits ≠ [] := fun nothing => none (by rw [nothing] at same; exact same.eq_nil)
  obtain ⟨_, _, _, stop⟩ := first.unique second same
  have window : coordinateSpan (config.window c) = coordinateSpan (config.window d) := by
    refine coordinateSpan_congr fun hit => ?_
    rw [mem_window, mem_window, same.mem_iff, stop, Recent, Recent, timesAfter_perm same]
  have selected := config.selection.of_perm same
  have lower : coordinateSpan (config.selection.of c.hits) = coordinateSpan (config.selection.of d.hits) :=
    coordinateSpan_congr fun hit => selected.mem_iff
  rw [reduceCluster_filled none, reduceCluster_filled some]
  cases checkCapacity config.maxTimebins 8 with
  | error fault => simp only [Except.map]
  | ok enough => simp only [Except.map, ReducedHit.extent, window, lower, selected.length_eq]

end ReductionConfig

/-- The cluster on a plane has the hits of the event that are on the plane. -/
theorem Event.Sound.slot_hits {e : Event} {plane : UInt8} (sound : e.Sound) (tracked : plane ∈ e.planes) :
    ∃ held, e.slot? plane = some held ∧ held.Faithful ∧ held.hits = e.hits.filter (·.plane == plane) := by
  obtain ⟨before, held, after, slots, fresh⟩ := slots_split tracked
  have inside : (plane, held) ∈ e.slots := by simp [slots]
  have others : ∀ slot ∈ e.slots, slot.1 ≠ plane → slot.2.hits.filter (·.plane == plane) = [] := by
    intro slot member apart
    refine List.filter_eq_nil_iff.mpr fun hit atHit same => apart ?_
    rw [← sound.own slot member hit atHit, eq_of_beq same]
  have distinct := sound.distinct
  rw [Event.planes, slots, List.map_append, List.map_cons, List.nodup_append, List.nodup_cons] at distinct
  have earlier : (before.flatMap (·.2.hits)).filter (·.plane == plane) = [] := by
    rw [List.filter_flatMap, List.flatMap_eq_nil_iff]
    intro slot member
    exact others slot (by simp [slots, member]) fun same => fresh (same ▸ List.mem_map_of_mem member)
  have later : (after.flatMap (·.2.hits)).filter (·.plane == plane) = [] := by
    rw [List.filter_flatMap, List.flatMap_eq_nil_iff]
    intro slot member
    exact others slot (by simp [slots, member]) fun same => distinct.2.1.1 (List.mem_map.mpr ⟨slot, member, same⟩)
  have own : held.hits.filter (·.plane == plane) = held.hits :=
    List.filter_eq_self.mpr fun hit atHit => by simpa using sound.own _ inside hit atHit
  refine ⟨held, by simp [slot?, slots, find?_split fresh], sound.faithful _ inside, ?_⟩
  rw [hits_eq, slots, List.flatMap_append, List.flatMap_cons, List.filter_append, List.filter_append, earlier, later,
    own, List.nil_append, List.append_nil]

namespace ReductionConfig

variable {config : ReductionConfig}

theorem reducePlane_eq {e : Event} {plane : UInt8} {held : Cluster} (slot : e.slot? plane = some held) :
    config.reducePlane e plane = config.reduceCluster held := by
  unfold reducePlane Event.cluster?
  rw [slot]
  cases none : held.isEmpty with
  | true => simp [Option.filter, none, reduceCluster, pure, Except.pure]
  | false => simp [Option.filter, none]

theorem reduce_outline (e : Event) : (config.reduce e).map ReducedEvent.outline =
    ((e.planes.mapM (config.reducePlane e)).map (List.map ReducedHit.extent)).map
      fun extents => ⟨e.timeStart, [extents[0]?, extents[1]?, extents[2]?]⟩ := by
  unfold reduce
  cases e.planes.mapM (config.reducePlane e) with
  | error fault => rfl
  | ok dimensions =>
    show Except.ok _ = Except.ok _
    simp [ReducedEvent.outline, ReducedEvent.dimensions]

/-- Events of the same hits are reduced to the same outline. -/
theorem reduce_outline_perm {e e' : Event} (sound : e.Sound) (sound' : e'.Sound) (planes : e.planes = e'.planes)
    (same : e.hits.Perm e'.hits) :
    (config.reduce e).map ReducedEvent.outline = (config.reduce e').map ReducedEvent.outline := by
  have start := (sound.times_unique sound' same).1
  have dimensions : (e.planes.mapM (config.reducePlane e)).map (List.map ReducedHit.extent) =
      (e.planes.mapM (config.reducePlane e')).map (List.map ReducedHit.extent) := by
    rw [map_mapM, map_mapM]
    refine mapM_forall₂ (List.forall₂_same.mpr fun plane tracked => ?_)
    obtain ⟨held, slot, faithful, hits⟩ := sound.slot_hits tracked
    obtain ⟨held', slot', faithful', hits'⟩ := sound'.slot_hits (planes ▸ tracked)
    rw [reducePlane_eq slot, reducePlane_eq slot']
    refine reduceCluster_extent faithful faithful' ?_
    rw [hits, hits']
    exact same.filter _
  rw [reduce_outline, reduce_outline, dimensions, start, planes]

theorem reduceCluster_total (enough : checkCapacity config.maxTimebins 8 = .ok ()) (c : Cluster) :
    ∃ r, config.reduceCluster c = .ok r := by
  unfold reduceCluster
  split
  · exact ⟨_, rfl⟩
  · rw [enough]
    exact ⟨_, rfl⟩

theorem reducePlane_total (enough : checkCapacity config.maxTimebins 8 = .ok ()) (e : Event) (plane : UInt8) :
    ∃ r, config.reducePlane e plane = .ok r := by
  unfold reducePlane
  split
  · exact reduceCluster_total enough _
  · exact ⟨_, rfl⟩

theorem reduce_total (enough : checkCapacity config.maxTimebins 8 = .ok ()) (e : Event) :
    ∃ r, config.reduce e = .ok r := by
  obtain ⟨dimensions, run⟩ := mapM_total (f := config.reducePlane e) fun plane (_ : plane ∈ e.planes) =>
    reducePlane_total enough e plane
  unfold reduce
  rw [run]
  exact ⟨_, rfl⟩

/-- Where there is no room for the times of a window, no event can be reduced. -/
theorem reduce_fault {fault : Fault} (full : checkCapacity config.maxTimebins 8 = .error fault) {e : Event}
    (sound : e.Sound) (filled : e.hits ≠ []) : config.reduce e = .error fault := by
  have cluster (c : Cluster) : config.reduceCluster c = if c.isEmpty then .ok {} else .error fault := by
    unfold reduceCluster
    rw [full]
    rfl
  have planes : e.planes.mapM (config.reducePlane e) = .error fault := by
    refine mapM_fault (fun plane tracked => ?_) ?_
    · obtain ⟨held, slot, _, _⟩ := sound.slot_hits tracked
      rw [reducePlane_eq slot, cluster]
      split
      · exact Or.inr ⟨_, rfl⟩
      · exact Or.inl rfl
    · obtain ⟨hit, member⟩ := List.exists_mem_of_ne_nil e.hits filled
      rw [Event.hits_eq] at member
      obtain ⟨slot, inside, atSlot⟩ := List.mem_flatMap.mp member
      have tracked : slot.1 ∈ e.planes := List.mem_map_of_mem inside
      obtain ⟨held, found, _, hits⟩ := sound.slot_hits tracked
      have some : hit ∈ held.hits := by
        rw [hits, List.mem_filter, Event.hits_eq]
        exact ⟨member, by simpa using sound.own slot inside hit atSlot⟩
      refine ⟨slot.1, tracked, ?_⟩
      rw [reducePlane_eq found, cluster, Cluster.isEmpty_eq_false_iff.mpr (List.ne_nil_of_mem some)]
      rfl
  unfold reduce
  rw [planes]
  rfl

end ReductionConfig

end EventFormation
