import EventFormation.Dump.Summary
import EventFormation.Proofs.Cluster.Bounds
import EventFormation.Proofs.Readout.Parsing
import Mathlib.Algebra.BigOperators.Group.List.Basic
import Mathlib.Data.List.Nodup
import Mathlib.Data.UInt

namespace EventFormation

/-- The record of a hit on the reserved plane, which is not read. -/
def Hit.isReserved (record : List UInt8) : Bool := record[12]? == some reservedPlane

/-- Every record is a hit or reserved. -/
theorem Hit.length_eq_add_reserved {records : List (List UInt8)} (whole : ∀ record ∈ records, record.length = recordSize) :
    records.length = (records.filterMap decode?).length + records.countP isReserved := by
  induction records with
  | nil => rfl
  | cons record rest ih =>
    have some := decode?_eq_none_iff (whole record List.mem_cons_self)
    have others := ih fun other member => whole other (List.mem_cons_of_mem record member)
    rw [List.length_cons, others, List.filterMap_cons, List.countP_cons]
    cases read : decode? record with
    | none =>
      have reserved : isReserved record = true := by simpa [isReserved] using some.mp read
      rw [if_pos reserved, Nat.add_assoc]
    | some hit =>
      have free : ¬ isReserved record = true := by
        simp only [isReserved, beq_iff_eq]
        exact fun reserved => by simp [some.mpr reserved] at read
      rw [if_neg free, List.length_cons]
      omega

namespace DumpSummary

variable {hits : List Hit} {first last : UInt64} {plane : UInt8} {count : Nat}

theorem timeRange?_eq_none_iff : timeRange? hits = none ↔ hits = [] := by
  cases hits with
  | nil => exact iff_of_true rfl rfl
  | cons hit rest => simp [timeRange?]

theorem timeRange?_eq_some_iff : timeRange? hits = some (first, last) ↔ Extremes (hits.map (·.time)) first last := by
  have both : timeRange? hits = some (first, last) ↔
      (hits.map (·.time)).min? = some first ∧ (hits.map (·.time)).max? = some last := by
    simp [timeRange?, Option.bind_eq_some_iff]
  rw [both]
  constructor
  · rintro ⟨least, greatest⟩
    obtain ⟨low_mem, low_le⟩ := List.min?_eq_some_iff.mp least
    obtain ⟨high_mem, le_high⟩ := List.max?_eq_some_iff.mp greatest
    exact ⟨low_mem, low_le, high_mem, le_high⟩
  · intro extremes
    exact ⟨extremes.min?_eq, extremes.max?_eq⟩

/-- The planes in ascending order, each with the number of its hits. -/
theorem planeCounts_eq (hits : List Hit) : planeCounts hits =
    (((List.range 256).map UInt8.ofNat).map fun plane => (plane, hits.countP (·.plane == plane))).filter (·.2 != 0) := by
  have each : ∀ n ∈ List.range 256, (tally hits).getD n 0 = hits.countP (·.plane == UInt8.ofNat n) := by
    intro n member
    have small : n < 256 := List.mem_range.mp member
    rw [← getD_tally, UInt8.toNat_ofNat_of_lt' small]
  rw [planeCounts, List.map_map]
  congr 1
  exact List.map_congr_left fun n member => by rw [each n member]; rfl

theorem mem_planes (plane : UInt8) : plane ∈ (List.range 256).map UInt8.ofNat :=
  List.mem_map.mpr ⟨plane.toNat, List.mem_range.mpr plane.toNat_lt, UInt8.ofNat_toNat⟩

theorem planes_sorted : ((List.range 256).map UInt8.ofNat).Pairwise (· < ·) := by
  refine List.pairwise_map.mpr (List.pairwise_lt_range.imp_of_mem fun {i j} atI atJ before => ?_)
  rw [UInt8.lt_iff_toNat_lt, UInt8.toNat_ofNat_of_lt' (List.mem_range.mp atI),
    UInt8.toNat_ofNat_of_lt' (List.mem_range.mp atJ)]
  exact before

theorem mem_planeCounts_iff :
    (plane, count) ∈ planeCounts hits ↔ count = hits.countP (·.plane == plane) ∧ count ≠ 0 := by
  rw [planeCounts_eq, List.mem_filter, bne_iff_ne]
  refine and_congr_left fun _ => ?_
  constructor
  · intro member
    obtain ⟨other, _, same⟩ := List.mem_map.mp member
    cases same
    rfl
  · rintro rfl
    exact List.mem_map.mpr ⟨plane, mem_planes plane, rfl⟩

theorem planeCounts_sorted (hits : List Hit) : (planeCounts hits).Pairwise fun a b => a.1 < b.1 := by
  rw [planeCounts_eq]
  refine List.Pairwise.filter _ (List.pairwise_map.mpr ?_)
  exact planes_sorted

/-- What is counted for each plane adds up to all hits. -/
theorem sum_planeCounts (hits : List Hit) : ((planeCounts hits).map (·.2)).sum = hits.length := by
  have kept (counts : List (UInt8 × Nat)) : ((counts.filter (·.2 != 0)).map (·.2)).sum = (counts.map (·.2)).sum := by
    induction counts with
    | nil => rfl
    | cons count rest ih =>
      by_cases none : count.2 = 0 <;> simp [none, ih]
  have found (planes : List UInt8) (own : UInt8) : (planes.map fun plane => if own == plane then 1 else 0).sum =
      planes.count own := by
    induction planes with
    | nil => rfl
    | cons plane rest ih =>
      rw [List.map_cons, List.sum_cons, ih, List.count_cons, Nat.add_comm, BEq.comm]
  have distinct : ((List.range 256).map UInt8.ofNat).Nodup := planes_sorted.imp UInt8.ne_of_lt
  have all := mem_planes
  rw [planeCounts_eq, kept, List.map_map]
  generalize (List.range 256).map UInt8.ofNat = planes at distinct all
  induction hits with
  | nil => simp [Function.comp_def]
  | cons hit rest ih =>
    simp only [Function.comp_def, List.countP_cons, List.length_cons] at ih ⊢
    rw [List.sum_map_add, ih, found, List.count_eq_one_of_mem distinct (all hit.plane)]

end DumpSummary

end EventFormation
