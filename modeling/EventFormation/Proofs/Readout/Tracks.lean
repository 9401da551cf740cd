import EventFormation.Proofs.Fault
import EventFormation.Readout.Generator
import Mathlib.Data.List.Chain
import Mathlib.Data.List.Flatten
import Mathlib.Data.List.Nodup
import Mathlib.Data.List.Perm.Basic

namespace EventFormation

/-- There is one way to sort hits of different times. -/
theorem Hit.sortByTime_eq_of_perm {hits sorted : List Hit} (same : hits.Perm sorted)
    (strict : sorted.Pairwise fun a b => a.time < b.time) : sortByTime hits = sorted := by
  have different : (sorted.map (·.time)).Nodup := List.pairwise_map.mpr (strict.imp UInt64.ne_of_lt)
  have order := (sortByTime_perm hits).trans same
  refine order.eq_of_pairwise (fun a b atA atB before after => ?_) (sortByTime_pairwise hits)
    (strict.imp UInt64.le_of_lt)
  exact List.inj_on_of_nodup_map different (order.mem_iff.mp atA) atB (UInt64.le_antisymm before after)

/-- Hits of one plane whose times and coordinates rise by one from hit to hit. -/
def risingHits (time : Nat) (plane : UInt8) (start : Nat) (weights : List UInt16) : List Hit :=
  weights.mapIdx fun step weight =>
    { time := .ofNat (time + step), plane, coordinate := .ofNat (start + step), weight }

theorem risingHits_concat (time : Nat) (plane : UInt8) (start : Nat) (weights : List UInt16) (weight : UInt16) :
    risingHits time plane start (weights ++ [weight]) = risingHits time plane start weights ++
      [⟨.ofNat (time + weights.length), plane, .ofNat (start + weights.length), weight⟩] := by
  rw [risingHits, risingHits, List.mapIdx_concat]

/-- Where a track starts, and what its hits weigh one after another. -/
structure Track (length : Nat) where
  start : Nat
  weights : List UInt16
  count : weights.length = length
  fits : start + length ≤ 65536

namespace Track

variable {length time : Nat} {plane : UInt8} {hit : Hit}

def hits (t : Track length) (time : Nat) (plane : UInt8) : List Hit := risingHits time plane t.start t.weights

@[simp] theorem length_hits (t : Track length) : (t.hits time plane).length = length := by
  rw [hits, risingHits, List.length_mapIdx, t.count]

theorem hits_ne_nil (t : Track length) (some : 0 < length) : t.hits time plane ≠ [] :=
  List.ne_nil_of_length_pos (by rwa [length_hits])

theorem toNat_time (inTime : time + length ≤ wordCount) {step : Nat} (inside : step < length) :
    (UInt64.ofNat (time + step)).toNat = time + step :=
  UInt64.toNat_ofNat_of_lt' (Nat.lt_of_lt_of_le (Nat.add_lt_add_left inside time) inTime)

theorem toNat_coordinate (t : Track length) {step : Nat} (inside : step < length) :
    (UInt16.ofNat (t.start + step)).toNat = t.start + step :=
  UInt16.toNat_ofNat_of_lt' (Nat.lt_of_lt_of_le (Nat.add_lt_add_left inside t.start) t.fits)

theorem getElem_hits (t : Track length) (inTime : time + length ≤ wordCount) {step : Nat}
    (inside : step < (t.hits time plane).length) :
    (t.hits time plane)[step].time.toNat = time + step ∧
      (t.hits time plane)[step].coordinate.toNat = t.start + step ∧ (t.hits time plane)[step].plane = plane := by
  rw [length_hits] at inside
  simp only [hits, risingHits, List.getElem_mapIdx]
  exact ⟨toNat_time inTime inside, t.toNat_coordinate inside, trivial⟩

theorem mem_hits {t : Track length} (inTime : time + length ≤ wordCount) (member : hit ∈ t.hits time plane) :
    ∃ step < length, hit.time.toNat = time + step ∧ hit.coordinate.toNat = t.start + step ∧ hit.plane = plane := by
  obtain ⟨step, inside, rfl⟩ := List.getElem_of_mem member
  exact ⟨step, by simpa using inside, t.getElem_hits inTime inside⟩

theorem exists_hit (t : Track length) (plane : UInt8) (inTime : time + length ≤ wordCount) {step : Nat}
    (inside : step < length) :
    ∃ hit ∈ t.hits time plane, hit.time.toNat = time + step ∧ hit.coordinate.toNat = t.start + step := by
  have place : step < (t.hits time plane).length := by simpa using inside
  obtain ⟨atTime, atCoordinate, _⟩ := t.getElem_hits inTime place
  exact ⟨_, List.getElem_mem place, atTime, atCoordinate⟩

theorem plane_hits (t : Track length) : ∀ hit ∈ t.hits time plane, hit.plane = plane := by
  intro hit member
  obtain ⟨step, inside, rfl⟩ := List.getElem_of_mem member
  simp [hits, risingHits]

theorem isChain_hits (t : Track length) (inTime : time + length ≤ wordCount) :
    (t.hits time plane).IsChain fun a b =>
      1 < length ∧ b.time.toNat = a.time.toNat + 1 ∧ b.coordinate.toNat = a.coordinate.toNat + 1 := by
  refine List.isChain_iff_getElem.mpr fun step inside => ?_
  obtain ⟨earlier, low, _⟩ := t.getElem_hits inTime (Nat.lt_of_succ_lt inside)
  obtain ⟨later, high, _⟩ := t.getElem_hits inTime inside
  rw [length_hits] at inside
  omega

theorem pairwise_hits (t : Track length) (inTime : time + length ≤ wordCount) :
    (t.hits time plane).Pairwise fun a b => a.time < b.time ∧ a.coordinate < b.coordinate := by
  refine List.pairwise_iff_getElem.mpr fun step next inside inside' before => ?_
  obtain ⟨earlier, low, _⟩ := t.getElem_hits inTime inside
  obtain ⟨later, high, _⟩ := t.getElem_hits inTime inside'
  rw [UInt64.lt_iff_toNat_lt, UInt16.lt_iff_toNat_lt]
  omega

/-- The hits on one of some planes are those of its track. -/
theorem filter_row {planes : List UInt8} (distinct : planes.Nodup) (row : UInt8 → Track length)
    (member : plane ∈ planes) :
    (planes.flatMap fun other => (row other).hits time other).filter (·.plane == plane) =
      (row plane).hits time plane := by
  obtain ⟨before, after, rfl⟩ := List.append_of_mem member
  obtain ⟨_, behind, apart⟩ := List.nodup_append.mp distinct
  have own : ((row plane).hits time plane).filter (·.plane == plane) = (row plane).hits time plane :=
    List.filter_eq_self.mpr fun hit atHit => by simp [(row plane).plane_hits hit atHit]
  have others {rest : List UInt8} (strange : ∀ other ∈ rest, other ≠ plane) :
      (rest.flatMap fun other => (row other).hits time other).filter (·.plane == plane) = [] := by
    refine List.filter_eq_nil_iff.mpr fun hit atHit => ?_
    obtain ⟨other, inside, atTrack⟩ := List.mem_flatMap.mp atHit
    simpa [(row other).plane_hits hit atTrack] using strange other inside
  rw [List.flatMap_append, List.flatMap_cons, List.filter_append, List.filter_append, own,
    others fun other inside => apart other inside plane List.mem_cons_self,
    others fun other inside => (ne_of_mem_of_not_mem inside (List.nodup_cons.mp behind).1), List.nil_append,
    List.append_nil]

end Track

namespace GeneratorConfig

variable {g : GeneratorConfig} {time : Nat} {done : Progress}

theorem length_pos (g : GeneratorConfig) : 0 < g.length := Nat.lt_of_lt_of_le Nat.zero_lt_one (Nat.le_max_right _ _)

theorem length_le (g : GeneratorConfig) : g.length ≤ 65535 := by
  have word := g.trackLength.toNat_lt
  rw [length]
  omega

theorem addHit_eq {plane : UInt8} {start step : Nat} (inTime : time + step < wordCount) :
    ∃ weight numbers, g.addHit time plane start done step =
      .ok (numbers, ⟨.ofNat (time + step), plane, .ofNat (start + step), weight⟩ :: done.2) := by
  have sum : checkedSum time step = .ok (time + step) := checkedSum_eq_ok_iff.mpr ⟨inTime, rfl⟩
  unfold addHit
  rw [sum]
  exact ⟨_, _, rfl⟩

theorem addHits_eq {plane : UInt8} {start count : Nat} (inTime : time + count ≤ wordCount) :
    ∃ weights numbers, weights.length = count ∧ (List.range count).foldlM (g.addHit time plane start) done =
      .ok (numbers, (risingHits time plane start weights).reverse ++ done.2) := by
  induction count with
  | zero => exact ⟨[], done.1, rfl, rfl⟩
  | succ count ih =>
    obtain ⟨weights, numbers, length, run⟩ := ih (by omega)
    obtain ⟨weight, numbers', add⟩ := @addHit_eq g time
      (numbers, (risingHits time plane start weights).reverse ++ done.2) plane start count (by omega)
    refine ⟨weights ++ [weight], numbers', by simp [length], ?_⟩
    rw [List.range_succ, List.foldlM_append, run]
    show g.addHit _ _ _ _ _ >>= _ = _
    rw [add, risingHits_concat, length, List.reverse_append]
    rfl

/-- A track starts where all of it has room. -/
theorem start_add_length_le (g : GeneratorConfig) (numbers : NumberSequence) :
    (numbers.below g.startRange).1 + g.length ≤ 65536 := by
  have below : (numbers.below g.startRange).1 < g.startRange := Nat.mod_lt _ (Nat.le_max_right _ _)
  have coordinates := g.coordinates.toNat_lt
  have short := g.length_le
  generalize (numbers.below g.startRange).1 = start at below ⊢
  rw [startRange] at below
  omega

theorem addTrack_eq {plane : UInt8} (inTime : time + g.length ≤ wordCount) :
    ∃ (t : Track g.length) (numbers : NumberSequence),
      g.addTrack time done plane = .ok (numbers, (t.hits time plane).reverse ++ done.2) := by
  have fits := g.start_add_length_le done.1
  unfold addTrack
  generalize done.1.below g.startRange = drawn at fits ⊢
  obtain ⟨weights, numbers, count, run⟩ := @addHits_eq g time (drawn.2, done.2) plane drawn.1 g.length inTime
  exact ⟨⟨drawn.1, weights, count, fits⟩, numbers, run⟩

/-- The hits of events at equal distances, each with a track on every plane. -/
def laidOut (g : GeneratorConfig) (tracks : Nat → UInt8 → Track g.length) (time : Nat) (events : Nat) : List Hit :=
  (List.range events).flatMap fun i => g.planes.flatMap fun plane =>
    (tracks i plane).hits (time + i * g.spacing.toNat) plane

theorem laidOut_succ (row : UInt8 → Track g.length) (tracks : Nat → UInt8 → Track g.length) (time events : Nat) :
    g.laidOut (fun i => i.casesOn row tracks) time (events + 1) =
      (g.planes.flatMap fun plane => (row plane).hits time plane) ++
        g.laidOut tracks (time + g.spacing.toNat) events := by
  rw [laidOut, laidOut, List.range_succ_eq_map, List.flatMap_cons, List.flatMap_map, Nat.zero_mul, Nat.add_zero]
  simp only [Nat.succ_mul, Nat.add_assoc, Nat.add_comm g.spacing.toNat]
  rfl

theorem addTracks_eq {planes : List UInt8} (distinct : planes.Nodup) (inTime : time + g.length ≤ wordCount) :
    ∃ (row : UInt8 → Track g.length) (numbers : NumberSequence), planes.foldlM (g.addTrack time) done =
      .ok (numbers, (planes.flatMap fun plane => (row plane).hits time plane).reverse ++ done.2) := by
  induction planes generalizing done with
  | nil =>
    have short := g.length_le
    exact ⟨fun _ => ⟨0, .replicate g.length 0, List.length_replicate, by omega⟩, done.1, rfl⟩
  | cons plane rest ih =>
    obtain ⟨fresh, distinct⟩ := List.nodup_cons.mp distinct
    obtain ⟨t, numbers, add⟩ := @addTrack_eq g time done plane inTime
    obtain ⟨row, numbers', run⟩ := @ih (numbers, (t.hits time plane).reverse ++ done.2) distinct
    refine ⟨Function.update row plane t, numbers', ?_⟩
    have others : (rest.flatMap fun other => (Function.update row plane t other).hits time other) =
        rest.flatMap fun other => (row other).hits time other := by
      refine List.flatMap_congr fun other member => ?_
      rw [Function.update_of_ne (ne_of_mem_of_not_mem member fresh)]
    rw [List.foldlM_cons, add]
    show rest.foldlM (g.addTrack time) _ = _
    rw [run, List.flatMap_cons, others, Function.update_self, List.reverse_append, List.append_assoc]

/-- After the tracks of an event the clock moves on to the next one. -/
theorem addEvents_succ {events : Nat} {made : Progress} (add : g.planes.foldlM (g.addTrack time) done = .ok made)
    (later : time + g.spacing.toNat < wordCount) :
    g.addEvents (events + 1) time done = g.addEvents events (time + g.spacing.toNat) made := by
  have sum : checkedSum time g.spacing.toNat = .ok (time + g.spacing.toNat) := checkedSum_eq_ok_iff.mpr ⟨later, rfl⟩
  rw [addEvents, add]
  show checkedSum time g.spacing.toNat >>= _ = _
  rw [sum]
  rfl

theorem addEvents_eq {events : Nat} (distinct : g.planes.Nodup)
    (inTime : time + events * g.spacing.toNat + g.length < wordCount) :
    ∃ (tracks : Nat → UInt8 → Track g.length) (numbers : NumberSequence),
      g.addEvents events time done = .ok (numbers, (g.laidOut tracks time events).reverse ++ done.2) := by
  induction events generalizing time done with
  | zero =>
    have short := g.length_le
    exact ⟨fun _ _ => ⟨0, .replicate g.length 0, List.length_replicate, by omega⟩, done.1, rfl⟩
  | succ events ih =>
    rw [Nat.succ_mul] at inTime
    obtain ⟨row, numbers, add⟩ := @addTracks_eq g time done g.planes distinct (by omega)
    obtain ⟨tracks, numbers', run⟩ := @ih (time + g.spacing.toNat)
      (numbers, (g.planes.flatMap fun plane => (row plane).hits time plane).reverse ++ done.2) (by omega)
    refine ⟨fun i => i.casesOn row tracks, numbers', ?_⟩
    rw [addEvents_succ add (by omega), run, laidOut_succ, List.reverse_append, List.append_assoc]

/-- Where there is room for all hits, what is made is put in order of time. -/
theorem hits_eq_map (inRange : g.events * g.planes.length * g.length * 16 ≤ maxBlockBytes) :
    g.hits = (g.addEvents g.events 0 (⟨g.seed⟩, [])).map fun made => Hit.sortByTime made.2.reverse := by
  have positive := g.length_pos
  have total : g.events * g.planes.length ≤ g.events * g.planes.length * g.length := Nat.le_mul_of_pos_right _ positive
  have room : checkCapacity (g.events * g.planes.length * g.length) 16 = .ok () := if_pos inRange
  rw [maxBlockBytes] at inRange
  have first : checkedProduct g.events g.planes.length = .ok (g.events * g.planes.length) :=
    checkedProduct_eq_ok_iff.mpr ⟨by rw [wordCount]; omega, rfl⟩
  have second : checkedProduct (g.events * g.planes.length) g.length = .ok (g.events * g.planes.length * g.length) :=
    checkedProduct_eq_ok_iff.mpr ⟨by rw [wordCount]; omega, rfl⟩
  unfold hits
  simp only [first, second, room, bind, Except.bind]
  cases g.addEvents g.events 0 (⟨g.seed⟩, []) <;> rfl

/-- A generator in range makes tracks, which it puts in order of time. -/
theorem hits_eq (distinct : g.planes.Nodup) (inTime : g.events * g.spacing.toNat + g.length < wordCount)
    (inRange : g.events * g.planes.length * g.length * 16 ≤ maxBlockBytes) :
    ∃ tracks : Nat → UInt8 → Track g.length, g.hits = .ok (Hit.sortByTime (g.laidOut tracks 0 g.events)) := by
  obtain ⟨tracks, numbers, run⟩ := @addEvents_eq g 0 (⟨g.seed⟩, []) g.events distinct (by omega)
  refine ⟨tracks, ?_⟩
  rw [hits_eq_map inRange, run, List.append_nil, Except.map, List.reverse_reverse]

/-- The hits of one plane, track after track. -/
def column (g : GeneratorConfig) (tracks : Nat → UInt8 → Track g.length) (plane : UInt8) : List Hit :=
  (List.range g.events).flatMap fun i => (tracks i plane).hits (i * g.spacing.toNat) plane

theorem filter_laidOut (distinct : g.planes.Nodup) (tracks : Nat → UInt8 → Track g.length) {plane : UInt8}
    (member : plane ∈ g.planes) :
    (g.laidOut tracks 0 g.events).filter (·.plane == plane) = g.column tracks plane := by
  rw [laidOut, column, List.filter_flatMap]
  refine List.flatMap_congr fun i _ => ?_
  rw [Track.filter_row distinct (tracks i) member, Nat.zero_add]

theorem spacing_le_of_lt (g : GeneratorConfig) {i j : Nat} (later : i < j) :
    i * g.spacing.toNat + g.spacing.toNat ≤ j * g.spacing.toNat := by
  rw [← Nat.succ_mul]
  exact Nat.mul_le_mul_right g.spacing.toNat later

/-- An event is over before the next one starts. -/
structure Separate (g : GeneratorConfig) : Prop where
  inTime : g.events * g.spacing.toNat + g.length < wordCount
  apart : g.length ≤ g.spacing.toNat

theorem Separate.track_inTime (separate : g.Separate) {i : Nat} (inside : i < g.events) :
    i * g.spacing.toNat + g.length ≤ wordCount := by
  have inTime := separate.inTime
  have before := Nat.mul_le_mul_right g.spacing.toNat inside.le
  omega

theorem Separate.before (separate : g.Separate) {i j : Nat} (later : i < j) :
    i * g.spacing.toNat + g.length ≤ j * g.spacing.toNat :=
  (Nat.add_le_add_left separate.apart _).trans (g.spacing_le_of_lt later)

theorem Separate.pairwise_column (separate : g.Separate) (tracks : Nat → UInt8 → Track g.length) (plane : UInt8) :
    (g.column tracks plane).Pairwise fun a b => a.time < b.time := by
  refine List.pairwise_flatMap.mpr ⟨fun i member => ?_, ?_⟩
  · exact ((tracks i plane).pairwise_hits (separate.track_inTime (List.mem_range.mp member))).imp And.left
  · refine List.pairwise_lt_range.imp_of_mem fun {i j} atI atJ later a atA b atB => ?_
    obtain ⟨step, inside, early, _⟩ := Track.mem_hits (separate.track_inTime (List.mem_range.mp atI)) atA
    obtain ⟨step', _, late, _⟩ := Track.mem_hits (separate.track_inTime (List.mem_range.mp atJ)) atB
    have before := separate.before later
    rw [UInt64.lt_iff_toNat_lt]
    omega

/-- What a plane sees of all hits, in order of time, are its tracks. -/
theorem Separate.sortByTime_filter (separate : g.Separate) (distinct : g.planes.Nodup)
    (tracks : Nat → UInt8 → Track g.length) {plane : UInt8} (member : plane ∈ g.planes) :
    Hit.sortByTime ((Hit.sortByTime (g.laidOut tracks 0 g.events)).filter (·.plane == plane)) =
      g.column tracks plane := by
  refine Hit.sortByTime_eq_of_perm ?_ (separate.pairwise_column tracks plane)
  rw [← filter_laidOut distinct tracks member]
  exact (Hit.sortByTime_perm _).filter _

end GeneratorConfig

end EventFormation
