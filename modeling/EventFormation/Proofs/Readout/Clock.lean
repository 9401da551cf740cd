import EventFormation.Proofs.Readout.Tracks

namespace EventFormation.GeneratorConfig

variable {g : GeneratorConfig} {time : Nat} {done : Progress}

/-- No coordinate leaves its word, whatever number is drawn for the start of a track. -/
theorem coordinate_fits (g : GeneratorConfig) (numbers : NumberSequence) {step : Nat} (inside : step < g.length) :
    (numbers.below g.startRange).1 + step < 65536 :=
  Nat.lt_of_lt_of_le (Nat.add_lt_add_left inside _) (g.start_add_length_le numbers)

theorem weight_fits (g : GeneratorConfig) (numbers : NumberSequence) :
    1 + (numbers.below g.weightRange).1 < 65536 := by
  have below : (numbers.below g.weightRange).1 < g.weightRange := Nat.mod_lt _ (Nat.le_max_right _ _)
  have word := g.maxWeight.toNat_lt
  generalize (numbers.below g.weightRange).1 = drawn at below ⊢
  rw [weightRange] at below
  omega

theorem addTracks_count {planes : List UInt8} (inTime : planes ≠ [] → time + g.length ≤ wordCount) :
    ∃ made numbers, planes.foldlM (g.addTrack time) done = .ok (numbers, made ++ done.2) ∧
      made.length = planes.length * g.length := by
  induction planes generalizing done with
  | nil => exact ⟨[], done.1, rfl, (Nat.zero_mul _).symm⟩
  | cons plane rest ih =>
    have inTime := inTime (List.cons_ne_nil plane rest)
    obtain ⟨t, numbers, add⟩ := @addTrack_eq g time done plane inTime
    obtain ⟨others, numbers', run, count⟩ := @ih (numbers, (t.hits time plane).reverse ++ done.2) fun _ => inTime
    refine ⟨others ++ (t.hits time plane).reverse, numbers', ?_, ?_⟩
    · rw [List.foldlM_cons, add]
      show rest.foldlM (g.addTrack time) _ = _
      rw [run, List.append_assoc]
    · rw [List.length_append, List.length_reverse, t.length_hits, count, List.length_cons, Nat.succ_mul]

/-- While hits are in time the clock alone decides, and it moves on behind the last event too. -/
theorem addEvents_count {events : Nat} (now : time < wordCount)
    (inTime : g.planes ≠ [] → ∀ i < events, time + i * g.spacing.toNat + g.length ≤ wordCount) :
    (time + events * g.spacing.toNat < wordCount → ∃ made numbers,
      g.addEvents events time done = .ok (numbers, made ++ done.2) ∧
        made.length = events * g.planes.length * g.length) ∧
    (wordCount ≤ time + events * g.spacing.toNat → g.addEvents events time done = .error .sumOverflow) := by
  induction events generalizing time done with
  | zero => exact ⟨fun _ => ⟨[], done.1, rfl, by simp⟩, fun late => by omega⟩
  | succ events ih =>
    obtain ⟨row, numbers, add, count⟩ := @addTracks_count g time done g.planes fun some => by
      simpa using inTime some 0 (Nat.succ_pos events)
    have end_eq : time + g.spacing.toNat + events * g.spacing.toNat = time + (events + 1) * g.spacing.toNat := by
      rw [Nat.succ_mul]
      omega
    by_cases later : time + g.spacing.toNat < wordCount
    · obtain ⟨goes, stops⟩ := @ih (time + g.spacing.toNat) (numbers, row ++ done.2) later fun some i inside => by
        have next := inTime some (i + 1) (Nat.succ_lt_succ inside)
        rw [Nat.succ_mul] at next
        omega
      rw [addEvents_succ add later]
      rw [end_eq] at goes stops
      refine ⟨fun early => ?_, stops⟩
      obtain ⟨made, numbers', run, total⟩ := goes early
      refine ⟨made ++ row, numbers', by rw [run, List.append_assoc], ?_⟩
      rw [List.length_append, total, count, Nat.succ_mul, Nat.add_mul]
    · -- The tracks of this event are made, also if it is the last one, before the clock fails.
      have sum : checkedSum time g.spacing.toNat = .error .sumOverflow := if_neg later
      refine ⟨fun early => by omega, fun _ => ?_⟩
      rw [addEvents, add]
      show checkedSum time g.spacing.toNat >>= _ = _
      rw [sum]
      rfl

/-- Nothing that a hit is made of leaves its word as long as the times fit. All hits are made, in order of time,
just if the clock can also be set to where one more event would start. -/
theorem hits_of_inTime (room : g.events * g.planes.length * g.length * 16 ≤ maxBlockBytes)
    (inTime : g.planes ≠ [] → ∀ i < g.events, ∀ step < g.length, i * g.spacing.toNat + step < wordCount) :
    (∀ numbers : NumberSequence, (∀ step < g.length, (numbers.below g.startRange).1 + step < 65536) ∧
      1 + (numbers.below g.weightRange).1 < 65536) ∧
    (g.events * g.spacing.toNat < wordCount → ∃ hits, g.hits = .ok hits ∧
      hits.length = g.events * g.planes.length * g.length ∧ hits.Pairwise fun a b => a.time ≤ b.time) ∧
    (wordCount ≤ g.events * g.spacing.toNat → g.hits = .error .sumOverflow) := by
  have positive := g.length_pos
  obtain ⟨goes, stops⟩ := @addEvents_count g 0 (⟨g.seed⟩, []) g.events (by decide) fun some i inside => by
    have last := inTime some i inside (g.length - 1) (by omega)
    omega
  rw [Nat.zero_add] at goes stops
  refine ⟨fun numbers => ⟨fun _ inside => g.coordinate_fits numbers inside, g.weight_fits numbers⟩, ?_, ?_⟩
  · intro early
    obtain ⟨made, numbers, run, count⟩ := goes early
    refine ⟨Hit.sortByTime made.reverse, ?_, ?_, Hit.sortByTime_pairwise _⟩
    · rw [hits_eq_map room, run, List.append_nil]
      rfl
    · rw [(Hit.sortByTime_perm _).length_eq, List.length_reverse, count]
  · intro late
    rw [hits_eq_map room, stops late]
    rfl

/-- Three events that are as far apart as they can be, twice on one plane. -/
theorem hits_of_inTime_three :
    let g : GeneratorConfig := { planes := [7, 7], events := 3, spacing := 6148914691236517205, trackLength := 0 }
    ∃ hits, g.hits = .ok hits ∧ hits.length = 6 ∧ hits.Pairwise fun a b => a.time ≤ b.time := by
  intro g
  have inTime : ∀ i < 3, ∀ step < 1, i * 6148914691236517205 + step < wordCount := by decide
  obtain ⟨_, goes, _⟩ := @hits_of_inTime g (by decide) fun _ => inTime
  exact goes (by decide)

/-- Two events whose hits are at the times 0 and 2 ^ 63. The clock is to be set to 2 ^ 64 behind them. -/
theorem hits_overflow_two :
    let g : GeneratorConfig := { planes := [0], events := 2, spacing := 9223372036854775808, trackLength := 1 }
    g.events * g.planes.length * g.length * 16 ≤ maxBlockBytes ∧
      (∀ i < g.events, ∀ step < g.length, i * g.spacing.toNat + step < wordCount) ∧
      g.hits = .error .sumOverflow := by
  intro g
  have inTime : ∀ i < 2, ∀ step < 1, i * 9223372036854775808 + step < wordCount := by decide
  exact ⟨by decide, inTime, by decide +kernel⟩

end EventFormation.GeneratorConfig
