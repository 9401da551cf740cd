import EventFormation.Proofs.Cluster.Reordering

namespace EventFormation

/-- The second reading of the clock is so many ticks after the first, or before it if they are negative. -/
def Delay (ticks : Int) (a b : UInt64) : Prop := (b.toNat : Int) = a.toNat + ticks

/-- A hit that a clock would have seen that was set forward by so many ticks. -/
def Hit.delayed (ticks : Int) (hit : Hit) : Hit := { hit with time := (hit.time.toNat + ticks).toNat.toUInt64 }

/-- The second hit differs from the first in nothing but that it comes later. -/
structure Hit.Delays (ticks : Int) (a b : Hit) : Prop where
  time : Delay ticks a.time b.time
  plane : a.plane = b.plane
  coordinate : a.coordinate = b.coordinate
  weight : a.weight = b.weight

variable {ticks : Int}

namespace Delay

variable {a b a' b' : UInt64}

theorem toUInt64 (fits : 0 ≤ a.toNat + ticks ∧ a.toNat + ticks < wordCount) :
    Delay ticks a (a.toNat + ticks).toNat.toUInt64 := by
  have word : (a.toNat + ticks).toNat < 2 ^ 64 := by
    simp only [wordCount] at fits
    omega
  rw [Delay, Nat.toUInt64, UInt64.toNat_ofNat_of_lt' word]
  omega

theorem eq_toUInt64 (later : Delay ticks a b) : b = (a.toNat + ticks).toNat.toUInt64 := by
  rw [Delay] at later
  rw [← later, Int.toNat_natCast]
  exact UInt64.ofNat_toNat.symm

theorem le_iff (first : Delay ticks a b) (second : Delay ticks a' b') : a ≤ a' ↔ b ≤ b' := by
  rw [UInt64.le_iff_toNat_le, UInt64.le_iff_toNat_le]
  simp only [Delay] at first second
  omega

theorem lt_iff (first : Delay ticks a b) (second : Delay ticks a' b') : a < a' ↔ b < b' := by
  rw [← UInt64.not_le, ← UInt64.not_le, second.le_iff first]

theorem eq_iff (first : Delay ticks a b) (second : Delay ticks a' b') : a = a' ↔ b = b' := by
  rw [← UInt64.toNat_inj, ← UInt64.toNat_inj]
  simp only [Delay] at first second
  omega

theorem ticksSince_eq (first : Delay ticks a b) (second : Delay ticks a' b') : ticksSince a a' = ticksSince b b' := by
  simp only [Delay] at first second
  simp only [ticksSince]
  omega

theorem min (first : Delay ticks a b) (second : Delay ticks a' b') : Delay ticks (Min.min a a') (Min.min b b') := by
  show Delay ticks (if a ≤ a' then a else a') (if b ≤ b' then b else b')
  by_cases ordered : a ≤ a'
  · rwa [if_pos ordered, if_pos ((first.le_iff second).mp ordered)]
  · rwa [if_neg ordered, if_neg (mt (first.le_iff second).mpr ordered)]

theorem max (first : Delay ticks a b) (second : Delay ticks a' b') : Delay ticks (Max.max a a') (Max.max b b') := by
  show Delay ticks (if a ≤ a' then a' else a) (if b ≤ b' then b' else b)
  by_cases ordered : a ≤ a'
  · rwa [if_pos ordered, if_pos ((first.le_iff second).mp ordered)]
  · rwa [if_neg ordered, if_neg (mt (first.le_iff second).mpr ordered)]

end Delay

/-- The ends of times come later by as much as the times. -/
theorem Extremes.delay {as bs : List UInt64} {low high low' high' : UInt64} (left : Extremes as low high)
    (right : Extremes bs low' high') (same : List.Forall₂ (Delay ticks) as bs) :
    Delay ticks low low' ∧ Delay ticks high high' := by
  obtain ⟨b, atB, least⟩ := forall₂_mem_left same left.low_mem
  obtain ⟨a, atA, least'⟩ := forall₂_mem_right same right.low_mem
  obtain ⟨d, atD, greatest⟩ := forall₂_mem_left same left.high_mem
  obtain ⟨c, atC, greatest'⟩ := forall₂_mem_right same right.high_mem
  have low := UInt64.le_iff_toNat_le.mp (left.low_le a atA)
  have low' := UInt64.le_iff_toNat_le.mp (right.low_le b atB)
  have high := UInt64.le_iff_toNat_le.mp (left.le_high c atC)
  have high' := UInt64.le_iff_toNat_le.mp (right.le_high d atD)
  simp only [Delay] at least least' greatest greatest' ⊢
  constructor <;> omega

namespace TimeSpan

/-- Both ends are later. -/
structure Delays (ticks : Int) (a b : TimeSpan) : Prop where
  first : Delay ticks a.first b.first
  last : Delay ticks a.last b.last

variable {a b a' b' : TimeSpan}

theorem Delays.ticks_eq (later : Delays ticks a b) : a.ticks = b.ticks := by
  rw [TimeSpan.ticks, TimeSpan.ticks, later.first.ticksSince_eq later.last]

theorem Delays.gap_eq (left : Delays ticks a b) (right : Delays ticks a' b') : a.gap a' = b.gap b' :=
  (left.last.min right.last).ticksSince_eq (left.first.max right.first)

theorem Delays.overlap_eq (left : Delays ticks a b) (right : Delays ticks a' b') : a.overlap a' = b.overlap b' := by
  have start := left.first.max right.first
  have stop := left.last.min right.last
  rw [TimeSpan.overlap, TimeSpan.overlap, start.ticksSince_eq stop]
  simp only [gt_iff_lt, stop.lt_iff start]

end TimeSpan

variable {hits others : List Hit}

theorem Hit.delays_delayed {hit : Hit} (fits : 0 ≤ hit.time.toNat + ticks ∧ hit.time.toNat + ticks < wordCount) :
    Hit.Delays ticks hit (hit.delayed ticks) := ⟨.toUInt64 fits, rfl, rfl, rfl⟩

theorem Hit.forall₂_delays (fits : ∀ hit ∈ hits, 0 ≤ hit.time.toNat + ticks ∧ hit.time.toNat + ticks < wordCount) :
    List.Forall₂ (Hit.Delays ticks) hits (hits.map (Hit.delayed ticks)) := by
  rw [List.forall₂_map_right_iff, List.forall₂_same]
  exact fun hit member => delays_delayed (fits hit member)

theorem Hit.sortByTime_delays (same : List.Forall₂ (Hit.Delays ticks) hits others) :
    List.Forall₂ (Hit.Delays ticks) (sortByTime hits) (sortByTime others) := by
  rw [sortByTime, sortByTime, stableSort_eq, stableSort_eq]
  exact forall₂_mergeSort same fun first second => decide_eq_decide.mpr (first.time.le_iff second.time)

theorem Hit.filter_plane_delays (same : List.Forall₂ (Hit.Delays ticks) hits others) (plane : UInt8) :
    List.Forall₂ (Hit.Delays ticks) (hits.filter (·.plane == plane)) (others.filter (·.plane == plane)) := by
  refine List.rel_filter (fun a b pair => ?_) same
  show (a.plane == plane) = true ↔ (b.plane == plane) = true
  rw [pair.plane]

/-- All that a cluster keeps of its hits but the sums comes later, or stays the same. -/
theorem Cluster.Faithful.delay {c d : Cluster} (first : c.Faithful) (second : d.Faithful)
    (same : List.Forall₂ (Hit.Delays ticks) c.hits d.hits) :
    c.isEmpty = d.isEmpty ∧ c.plane = d.plane ∧ (c.hits ≠ [] → c.stretch.Delays ticks d.stretch) := by
  have length := same.length_eq
  refine ⟨?_, ?_, fun some => ?_⟩
  · rw [Bool.eq_iff_iff, Cluster.isEmpty_iff, Cluster.isEmpty_iff, ← List.length_eq_zero_iff, length,
      List.length_eq_zero_iff]
  · have planes : c.hits.map (·.plane) = d.hits.map (·.plane) := map_eq_of_forall₂ same fun pair => pair.plane
    refine Option.ext fun p => ?_
    have all (hits : List Hit) : (∀ hit ∈ hits, hit.plane = p) ↔ ∀ plane ∈ hits.map (·.plane), plane = p := by simp
    rw [first.plane p, second.plane p, all, all, planes, ← List.length_pos_iff, ← List.length_pos_iff, length]
  · have some' : d.hits ≠ [] := by
      rw [← List.length_pos_iff, ← length, List.length_pos_iff]
      exact some
    have times : List.Forall₂ (Delay ticks) (c.hits.map (·.time)) (d.hits.map (·.time)) :=
      List.rel_map (fun _ _ pair => pair.time) same
    obtain ⟨start, stop⟩ := (first.times some).delay (second.times some') times
    exact ⟨start, stop⟩

namespace Clusterer

/-- Hits that all come later form the same clusters, later. -/
theorem clustersOf_delays (config : ClusterConfig) (same : List.Forall₂ (Hit.Delays ticks) hits others) :
    List.Forall₂ (fun c d => List.Forall₂ (Hit.Delays ticks) c.hits d.hits) (clustersOf config hits)
      (clustersOf config others) := by
  rw [clustersOf_eq, clustersOf_eq]
  have groups : List.Forall₂ (List.Forall₂ (Hit.Delays ticks)) (hits.splitBy (Hit.inTime config.maxTimeGap))
      (others.splitBy (Hit.inTime config.maxTimeGap)) :=
    forall₂_splitBy same fun first second => by rw [Hit.inTime, Hit.inTime, first.time.ticksSince_eq second.time]
  refine List.rel_flatMap groups fun group later both => ?_
  have sorted : List.Forall₂ (Hit.Delays ticks) (Hit.sortByCoordinate group) (Hit.sortByCoordinate later) := by
    rw [Hit.sortByCoordinate, Hit.sortByCoordinate, stableSort_eq, stableSort_eq]
    exact forall₂_mergeSort both fun first second => by rw [first.coordinate, second.coordinate]
  rw [groupClusters_eq, groupClusters_eq, List.forall₂_map_left_iff, List.forall₂_map_right_iff]
  simp only [Cluster.hits_ofHits]
  exact forall₂_splitBy sorted fun first second => by
    rw [Hit.adjacent, Hit.adjacent, first.coordinate, second.coordinate]

end Clusterer

end EventFormation
