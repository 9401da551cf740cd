import EventFormation.Cluster.Basic
import Mathlib.Data.List.Basic

namespace EventFormation

/-- The least and the greatest of some values. There is at least one value. -/
structure Extremes {α : Type} [LE α] (values : List α) (low high : α) : Prop where
  low_mem : low ∈ values
  low_le : ∀ value ∈ values, low ≤ value
  high_mem : high ∈ values
  le_high : ∀ value ∈ values, value ≤ high

/-- The greater of two words is chosen by one comparison, which makes it their supremum. -/
theorem lawfulOrderMax_maxOfLe {α : Type} [LE α] [DecidableLE α] [Std.IsLinearOrder α] :
    @Std.LawfulOrderMax α maxOfLe _ := by
  let _ : Max α := maxOfLe
  have value (a b : α) : max a b = if a ≤ b then b else a := rfl
  refine @Std.LawfulOrderMax.mk α _ _ ⟨fun a b => ?_⟩ ⟨fun a b c => ?_⟩
  · by_cases ordered : a ≤ b <;> simp [value, ordered]
  · by_cases ordered : a ≤ b
    · rw [value, if_pos ordered]
      exact ⟨fun above => ⟨Std.le_trans ordered above, above⟩, fun both => both.2⟩
    · have other : b ≤ a := (Std.le_total (a := a) (b := b)).resolve_left ordered
      rw [value, if_neg ordered]
      exact ⟨fun above => ⟨above, Std.le_trans other above⟩, fun both => both.1⟩

instance instLawfulOrderMaxUInt64 : Std.LawfulOrderMax UInt64 := lawfulOrderMax_maxOfLe

instance instLawfulOrderMaxUInt16 : Std.LawfulOrderMax UInt16 := lawfulOrderMax_maxOfLe

theorem Extremes.singleton {α : Type} [LE α] [Std.Refl (α := α) (· ≤ ·)] (value : α) :
    Extremes [value] value value where
  low_mem := List.mem_singleton_self value
  low_le := by simp [Std.le_refl]
  high_mem := List.mem_singleton_self value
  le_high := by simp [Std.le_refl]

theorem Extremes.min?_eq {α : Type} [LE α] [Min α] [Std.IsLinearOrder α] [Std.LawfulOrderMin α] {values : List α}
    {low high : α} (extremes : Extremes values low high) : values.min? = some low :=
  List.min?_eq_some_iff.mpr ⟨extremes.low_mem, extremes.low_le⟩

theorem Extremes.max?_eq {α : Type} [LE α] [Max α] [Std.IsLinearOrder α] [Std.LawfulOrderMax α] {values : List α}
    {low high : α} (extremes : Extremes values low high) : values.max? = some high :=
  List.max?_eq_some_iff.mpr ⟨extremes.high_mem, extremes.le_high⟩

/-- Values that rise over an interval start and stop with its ends. -/
theorem Extremes.of_interval {α : Type} [LE α] {values : List α} (value : Nat → α) {first last : Nat}
    (before : first ≤ last) (rising : ∀ k k', k ≤ k' → k' ≤ last → value k ≤ value k')
    (members : ∀ v, v ∈ values ↔ ∃ k, first ≤ k ∧ k ≤ last ∧ value k = v) :
    Extremes values (value first) (value last) where
  low_mem := (members _).mpr ⟨first, Nat.le_refl first, before, rfl⟩
  low_le := by
    intro v member
    obtain ⟨k, above, below, rfl⟩ := (members v).mp member
    exact rising first k above below
  high_mem := (members _).mpr ⟨last, before, Nat.le_refl last, rfl⟩
  le_high := by
    intro v member
    obtain ⟨k, _, below, rfl⟩ := (members v).mp member
    exact rising k last below (Nat.le_refl last)

theorem Extremes.append {α : Type} [LE α] [Min α] [Max α] [Std.IsLinearOrder α]
    [Std.LawfulOrderMin α] [Std.LawfulOrderMax α] {as bs : List α} {low high low' high' : α}
    (left : Extremes as low high) (right : Extremes bs low' high') :
    Extremes (as ++ bs) (min low low') (max high high') where
  low_mem := by
    rcases Std.MinEqOr.min_eq_or low low' with same | same <;> rw [same]
    · exact List.mem_append_left _ left.low_mem
    · exact List.mem_append_right _ right.low_mem
  low_le := by
    intro value member
    rcases List.mem_append.mp member with first | second
    · exact Std.le_trans Std.min_le_left (left.low_le value first)
    · exact Std.le_trans Std.min_le_right (right.low_le value second)
  high_mem := by
    rcases Std.MaxEqOr.max_eq_or high high' with same | same <;> rw [same]
    · exact List.mem_append_left _ left.high_mem
    · exact List.mem_append_right _ right.high_mem
  le_high := by
    intro value member
    rcases List.mem_append.mp member with first | second
    · exact Std.le_trans (left.le_high value first) Std.left_le_max
    · exact Std.le_trans (right.le_high value second) Std.right_le_max

theorem Extremes.flatMap {ι α : Type} [LE α] [Min α] [Max α] [Std.IsLinearOrder α]
    [Std.LawfulOrderMin α] [Std.LawfulOrderMax α] {items : List ι} {values : ι → List α}
    {low high : ι → α} {least greatest : α}
    (each : ∀ item ∈ items, Extremes (values item) (low item) (high item))
    (atLeast : (items.map low).min? = some least) (atMost : (items.map high).max? = some greatest) :
    Extremes (items.flatMap values) least greatest := by
  obtain ⟨leastMem, leastLe⟩ := List.min?_eq_some_iff.mp atLeast
  obtain ⟨greatestMem, leGreatest⟩ := List.max?_eq_some_iff.mp atMost
  constructor
  · obtain ⟨item, member, rfl⟩ := List.mem_map.mp leastMem
    exact List.mem_flatMap.mpr ⟨item, member, (each item member).low_mem⟩
  · intro value inside
    obtain ⟨item, member, value⟩ := List.mem_flatMap.mp inside
    exact Std.le_trans (leastLe _ (List.mem_map_of_mem member)) ((each item member).low_le _ value)
  · obtain ⟨item, member, rfl⟩ := List.mem_map.mp greatestMem
    exact List.mem_flatMap.mpr ⟨item, member, (each item member).high_mem⟩
  · intro value inside
    obtain ⟨item, member, value⟩ := List.mem_flatMap.mp inside
    exact Std.le_trans ((each item member).le_high _ value) (leGreatest _ (List.mem_map_of_mem member))

/-- Lists of the same values have the same extremes. -/
theorem Extremes.unique {α : Type} [LE α] [Std.IsLinearOrder α] {as bs : List α} {low high low' high' : α}
    (left : Extremes as low high) (right : Extremes bs low' high') (same : as.Perm bs) :
    low = low' ∧ high = high' := by
  constructor
  · exact Std.le_antisymm (left.low_le _ (same.mem_iff.mpr right.low_mem))
      (right.low_le _ (same.mem_iff.mp left.low_mem))
  · exact Std.le_antisymm (right.le_high _ (same.mem_iff.mp left.high_mem))
      (left.le_high _ (same.mem_iff.mpr right.high_mem))

/-- The plane of hits that are all on one plane, none if there is no hit or no such plane. -/
def SharedPlane (plane : Option UInt8) (hits : List Hit) : Prop :=
  ∀ p, plane = some p ↔ hits ≠ [] ∧ ∀ hit ∈ hits, hit.plane = p

theorem SharedPlane.singleton (hit : Hit) : SharedPlane (some hit.plane) [hit] := by
  intro p
  simp

theorem SharedPlane.append {a b : Option UInt8} {as bs : List Hit} (left : SharedPlane a as)
    (right : SharedPlane b bs) (someLeft : as ≠ []) (someRight : bs ≠ []) :
    SharedPlane (if a = b then a else none) (as ++ bs) := by
  intro p
  have all : (as ++ bs ≠ [] ∧ ∀ hit ∈ as ++ bs, hit.plane = p) ↔ a = some p ∧ b = some p := by
    rw [left p, right p]
    simp only [ne_eq, List.append_eq_nil_iff, List.mem_append, someLeft, someRight]
    grind
  rw [all]
  by_cases same : a = b
  · simp [same]
  · simp only [if_neg same, reduceCtorEq, false_iff, not_and]
    intro first second
    exact same (first.trans second.symm)

theorem SharedPlane.unique {a b : Option UInt8} {as bs : List Hit} (left : SharedPlane a as)
    (right : SharedPlane b bs) (same : as.Perm bs) : a = b := by
  refine Option.ext fun p => ?_
  rw [left p, right p, ← List.length_pos_iff, ← List.length_pos_iff, same.length_eq]
  simp only [same.mem_iff]

namespace Cluster

theorem isEmpty_eq_false_iff {c : Cluster} : c.isEmpty = false ↔ c.hits ≠ [] := by
  rw [← Bool.not_eq_true, isEmpty_iff]

/-- The cached plane and bounds are those of the hits, and an empty cluster is blank. -/
structure Faithful (c : Cluster) : Prop where
  blank : c.hits = [] → c = Cluster.empty
  plane : SharedPlane c.plane c.hits
  mixed_iff : c.mixed = true ↔ c.hits ≠ [] ∧ c.plane = none
  times : c.hits ≠ [] → Extremes (c.hits.map (·.time)) c.timeStart c.timeEnd
  coordinates : c.hits ≠ [] → Extremes (c.hits.map (·.coordinate)) c.coordStart c.coordEnd

theorem Faithful.empty : Cluster.empty.Faithful where
  blank := fun _ => rfl
  plane := by intro p; simp [Cluster.empty, hits]
  mixed_iff := by simp [Cluster.empty, hits]
  times := fun some => absurd hits_empty some
  coordinates := fun some => absurd hits_empty some

theorem Faithful.insert {c : Cluster} (faithful : c.Faithful) (hit : Hit) :
    (c.insert hit).Faithful := by
  have blank : (c.insert hit).hits = [] → c.insert hit = Cluster.empty := by simp
  by_cases empty : c.hits = []
  · have none : c.isEmpty = true := isEmpty_iff.mpr empty
    have single : (c.insert hit).hits = [hit] := by rw [hits_insert, empty, List.nil_append]
    refine ⟨blank, ?_, ?_, ?_, ?_⟩ <;> rw [single] <;> simp only [Cluster.insert, none, if_true]
    · exact SharedPlane.singleton hit
    · simp
    · exact fun _ => Extremes.singleton hit.time
    · exact fun _ => Extremes.singleton hit.coordinate
  · have some : ¬ c.isEmpty = true := fun none => empty (isEmpty_iff.mp none)
    refine ⟨blank, ?_, ?_, ?_, ?_⟩ <;> rw [hits_insert] <;>
      simp only [Cluster.insert, some, List.map_append]
    · have plane := faithful.plane.append (SharedPlane.singleton hit) empty (by simp)
      by_cases same : c.plane = hit.plane <;> simpa [same] using plane
    · have mixed := faithful.mixed_iff
      by_cases same : c.plane = hit.plane <;> simp_all
    · exact fun _ => (faithful.times empty).append (Extremes.singleton hit.time)
    · exact fun _ => (faithful.coordinates empty).append (Extremes.singleton hit.coordinate)

theorem Faithful.merge {c d : Cluster} (left : c.Faithful) (right : d.Faithful) :
    (c.merge d).1.Faithful := by
  by_cases noneRight : d.hits = []
  · have none : d.isEmpty = true := isEmpty_iff.mpr noneRight
    simpa only [Cluster.merge, none, if_true] using left
  have someRight : ¬ d.isEmpty = true := fun none => noneRight (isEmpty_iff.mp none)
  by_cases noneLeft : c.hits = []
  · have none : c.isEmpty = true := isEmpty_iff.mpr noneLeft
    simpa [Cluster.merge, none, someRight] using right
  have someLeft : ¬ c.isEmpty = true := fun none => noneLeft (isEmpty_iff.mp none)
  refine ⟨by simp [noneLeft], ?_, ?_, ?_, ?_⟩ <;> rw [hits_merge_fst] <;>
    simp only [Cluster.merge, someLeft, someRight, List.map_append]
  · have plane := left.plane.append right.plane noneLeft noneRight
    have mixed := right.mixed_iff
    by_cases same : c.plane = d.plane
    · cases unequal : d.mixed <;> simp_all
    · simpa [same] using plane
  · have mixedLeft := left.mixed_iff
    have mixedRight := right.mixed_iff
    by_cases same : c.plane = d.plane <;> cases d.mixed <;> simp_all
  · exact fun _ => (left.times noneLeft).append (right.times noneRight)
  · exact fun _ => (left.coordinates noneLeft).append (right.coordinates noneRight)

/-- The clusters that can be made from hits, in any order of additions and moves. What a move
leaves behind and what a reset leaves is an empty cluster again. -/
inductive Built : Cluster → Prop
  | empty : Built Cluster.empty
  | insert {c} (hit : Hit) : Built c → Built (c.insert hit)
  | merge {c d} : Built c → Built d → Built (c.merge d).1

theorem Built.faithful {c : Cluster} (built : c.Built) : c.Faithful := by
  induction built with
  | empty => exact .empty
  | insert hit _ ih => exact ih.insert hit
  | merge _ _ ihLeft ihRight => exact ihLeft.merge ihRight

theorem Built.insertAll {c : Cluster} (built : c.Built) (hits : List Hit) : (c.insertAll hits).Built := by
  induction hits generalizing c with
  | nil => exact built
  | cons hit rest ih => exact ih (built.insert hit)

theorem Built.ofHits (hits : List Hit) : (ofHits hits).Built := Built.empty.insertAll hits

/-- All that a cluster keeps of its hits but the sums is the same in whatever order they came. -/
theorem Faithful.unique {c d : Cluster} (first : c.Faithful) (second : d.Faithful) (same : c.hits.Perm d.hits) :
    c.isEmpty = d.isEmpty ∧ c.plane = d.plane ∧ c.timeStart = d.timeStart ∧ c.timeEnd = d.timeEnd := by
  by_cases none : c.hits = []
  · rw [none] at same
    rw [first.blank none, second.blank same.symm.eq_nil]
    exact ⟨rfl, rfl, rfl, rfl⟩
  · have some : d.hits ≠ [] := fun nothing => none (by rw [nothing] at same; exact same.eq_nil)
    obtain ⟨start, stop⟩ := (first.times none).unique (second.times some) (same.map _)
    refine ⟨?_, first.plane.unique second.plane same, start, stop⟩
    rw [isEmpty_eq_false_iff.mpr none, isEmpty_eq_false_iff.mpr some]

theorem Faithful.time_le_timeEnd {c : Cluster} (faithful : c.Faithful) {hit : Hit}
    (member : hit ∈ c.hits) : hit.time ≤ c.timeEnd :=
  (faithful.times (List.ne_nil_of_mem member)).le_high _ (List.mem_map_of_mem member)

theorem Faithful.exists_timeEnd {c : Cluster} (faithful : c.Faithful) (some : c.hits ≠ []) :
    ∃ hit ∈ c.hits, hit.time = c.timeEnd :=
  List.mem_map.mp (faithful.times some).high_mem

theorem Faithful.exists_timeStart {c : Cluster} (faithful : c.Faithful) (some : c.hits ≠ []) :
    ∃ hit ∈ c.hits, hit.time = c.timeStart :=
  List.mem_map.mp (faithful.times some).low_mem

end Cluster

end EventFormation
