import EventFormation.Proofs.Formation.Breaking

namespace EventFormation.EventBuilder

variable {config : FormationConfig} {given hits others : List Hit} {b start : EventBuilder} {calls : List Call}
  {returned : List ReducedEvent}

/-- The hits that are on no tracked plane. -/
def strange (config : FormationConfig) (given : List Hit) : List Hit :=
  given.filter fun hit => !config.planes.contains hit.plane

/-- Two lists of hits that leave open only how the planes take turns: each tracked plane has the same hits in the same
order, and there are as many hits on all other planes. -/
structure Interleaved (config : FormationConfig) (hits others : List Hit) : Prop where
  own : ∀ plane ∈ config.planes, hits.filter (·.plane == plane) = others.filter (·.plane == plane)
  strange : (strange config hits).length = (strange config others).length

/-- The tracked planes have the same hits all together. -/
theorem Interleaved.accepted_perm (interleaved : Interleaved config hits others) :
    (accepted config hits).Perm (accepted config others) := by
  refine List.perm_iff_count.mpr fun hit => ?_
  by_cases tracked : config.planes.contains hit.plane = true
  · have same := congrArg (List.count hit) (interleaved.own hit.plane (List.contains_iff_mem.mp tracked))
    rw [List.count_filter (by simp), List.count_filter (by simp)] at same
    have counted (hits : List Hit) : (accepted config hits).count hit = hits.count hit := List.count_filter tracked
    rw [counted, counted, same]
  · have absent (hits : List Hit) : (accepted config hits).count hit = 0 :=
      List.count_eq_zero.mpr fun member => tracked (List.mem_filter.mp member).2
    rw [absent, absent]

/-- Each clusterer gets the hits of its plane, and nothing else. -/
theorem Follows.clusterers_insertAll (follows : Follows config given b) (hits : List Hit) :
    (b.insertAll hits).clusterers =
      b.clusterers.map fun entry => (entry.1, entry.2.insertAll (hits.filter (·.plane == entry.1))) := by
  induction hits generalizing given b with
  | nil => exact (List.map_id' b.clusterers).symm
  | cons hit rest ih =>
    have first := clusterers_insert (by rw [follows.planes]; exact follows.distinct) hit
    have others := ih (follows.insert hit)
    rw [first, List.map_map] at others
    refine others.trans (List.map_congr_left fun entry _ => ?_)
    by_cases own : entry.1 = hit.plane
    · simp [own, Clusterer.insertAll]
    · simp [own, Ne.symm own]

theorem Follows.statistics_insert (follows : Follows config given b) (hit : Hit) :
    (b.insert hit).statistics = { b.statistics with
      hits := b.statistics.hits + (accepted config [hit]).length
      rejectedHits := b.statistics.rejectedHits + (strange config [hit]).length } := by
  unfold EventBuilder.insert
  rw [tracks_eq follows]
  split
  · rename_i tracked
    have own : accepted config [hit] = [hit] := List.filter_cons_of_pos tracked
    have none : strange config [hit] = [] := List.filter_cons_of_neg (by simpa using tracked)
    rw [own, none]
    rfl
  · rename_i other
    have none : accepted config [hit] = [] := List.filter_cons_of_neg other
    have own : strange config [hit] = [hit] := List.filter_cons_of_pos (by simpa using other)
    rw [none, own]
    rfl

theorem Follows.statistics_insertAll (follows : Follows config given b) (hits : List Hit) :
    (b.insertAll hits).statistics = { b.statistics with
      hits := b.statistics.hits + (accepted config hits).length
      rejectedHits := b.statistics.rejectedHits + (strange config hits).length } := by
  induction hits generalizing given b with
  | nil => rfl
  | cons hit rest ih =>
    have others := ih (follows.insert hit)
    rw [follows.statistics_insert] at others
    refine others.trans ?_
    have split (keep : Hit → Bool) : ((hit :: rest).filter keep).length =
        ([hit].filter keep).length + (rest.filter keep).length := by
      rw [← List.length_append, ← List.filter_append, List.singleton_append]
    simp only [accepted, EventBuilder.strange, split, Nat.add_assoc]

/-- A builder does not see how the planes took turns. -/
theorem Follows.insertAll_congr (follows : Follows config given b) (interleaved : Interleaved config hits others) :
    b.insertAll hits = b.insertAll others := by
  have eta (q : EventBuilder) : q = ⟨q.clusterers, q.matcher, q.reduction, q.statistics⟩ := rfl
  have clusterers : (b.insertAll hits).clusterers = (b.insertAll others).clusterers := by
    rw [follows.clusterers_insertAll, follows.clusterers_insertAll]
    refine List.map_congr_left fun entry member => ?_
    have tracked : entry.1 ∈ config.planes := follows.planes ▸ List.mem_map_of_mem member
    rw [interleaved.own entry.1 tracked]
  have statistics : (b.insertAll hits).statistics = (b.insertAll others).statistics := by
    rw [follows.statistics_insertAll, follows.statistics_insertAll, interleaved.accepted_perm.length_eq,
      interleaved.strange]
  rw [eta (b.insertAll hits), eta (b.insertAll others), clusterers, statistics, matcher_addAll, matcher_addAll,
    reduction_addAll, reduction_addAll]

/-- Whatever a builder has been asked before, two batches that differ only in how the planes take turns have the same
outcome, the events that are returned as well as the whole builder after them. It is not a fault if the clock can count
the time between any two hits of tracked planes and there is room for a window. -/
theorem push_interleaved (new : ofConfig config = .ok start) (run : start.performAll calls = .ok (returned, b))
    (interleaved : Interleaved config hits others) :
    b.insertAll hits = b.insertAll others ∧ b.push hits = b.push others ∧
      (ClockLimited (accepted config (calls.flatMap Call.hits ++ hits)) →
        config.reduction.maxTimebins * 8 ≤ maxBlockBytes →
        ∃ reduced q, b.push hits = .ok (reduced, q) ∧ b.push others = .ok (reduced, q)) := by
  have running := (Running.start new).performAll run
  rw [List.nil_append] at running
  have same := running.follows.insertAll_congr interleaved
  have pushed : b.push hits = b.push others := congrArg process same
  refine ⟨same, pushed, fun limited room => ?_⟩
  rw [← pushed]
  cases push : b.push hits with
  | error fault =>
    have breaks : b.Breaks config (.push hits) fault := running.perform_eq_error_iff.mp push
    exact absurd breaks (running.not_breaks limited room)
  | ok pair => exact ⟨pair.1, pair.2, rfl, rfl⟩

/-- A batch that alternates and one that comes plane after plane, with a hit on some other plane at the end or at the
start. -/
theorem push_interleaved_alternating :
    let calls : List Call := [.push [⟨1, 0, 4, 1⟩, ⟨2, 1, 4, 1⟩]]
    let hits : List Hit := [⟨900, 0, 4, 1⟩, ⟨900, 1, 4, 1⟩, ⟨1800, 0, 4, 1⟩, ⟨1800, 1, 4, 1⟩, ⟨2700, 0, 4, 1⟩,
      ⟨2700, 1, 4, 1⟩, ⟨5, 7, 1, 1⟩]
    let others : List Hit := [⟨9, 8, 2, 1⟩, ⟨900, 1, 4, 1⟩, ⟨1800, 1, 4, 1⟩, ⟨2700, 1, 4, 1⟩, ⟨900, 0, 4, 1⟩,
      ⟨1800, 0, 4, 1⟩, ⟨2700, 0, 4, 1⟩]
    ∃ start returned b, ofConfig {} = .ok start ∧ start.performAll calls = .ok (returned, b) ∧
      Interleaved {} hits others ∧
      ∃ reduced q, b.push hits = .ok (reduced, q) ∧ b.push others = .ok (reduced, q) ∧ reduced.length = 1 := by
  intro calls hits others
  have interleaved : Interleaved {} hits others := ⟨by decide +kernel, rfl⟩
  have counts : ((ofConfig {}).toOption.bind fun start => (start.performAll calls).toOption.bind fun run =>
      (run.2.push hits).toOption.map (·.1.length)) = some 1 := by decide +kernel
  obtain ⟨start, new, counts⟩ := Option.bind_eq_some_iff.mp counts
  obtain ⟨⟨returned, b⟩, run, counts⟩ := Option.bind_eq_some_iff.mp counts
  have new := eq_ok_of_toOption new
  have run := eq_ok_of_toOption run
  obtain ⟨_, _, pushes⟩ := push_interleaved new run interleaved
  obtain ⟨reduced, q, first, second⟩ := pushes (by decide +kernel) (by decide)
  rw [first] at counts
  exact ⟨start, returned, b, new, run, interleaved, reduced, q, first, second, Option.some_injective _ counts⟩

end EventFormation.EventBuilder
