import EventFormation.Proofs.Formation.Progress

namespace EventFormation.EventBuilder

/-- The builder as it is when a call comes to match what is final. A flush does not ask what is. -/
def beforePoll (b : EventBuilder) : Call → Option EventBuilder
  | .push hits => some (b.insertAll hits)
  | .process => some b
  | .insert _ | .flush => none

variable {config : FormationConfig} {before : List Hit} {b q ready polled : EventBuilder}

theorem matcher_addAll (hits : List Hit) : (b.insertAll hits).matcher = b.matcher := by
  induction hits generalizing b with
  | nil => rfl
  | cons hit rest ih =>
    have others := @ih (b.insert hit)
    rw [matcher_insert] at others
    exact others

theorem reduction_addAll (hits : List Hit) : (b.insertAll hits).reduction = b.reduction := by
  induction hits generalizing b with
  | nil => rfl
  | cons hit rest ih => exact (@ih (b.insert hit)).trans (reduction_insert hit)

theorem perform_events {call : Call} {reduced : List ReducedEvent} (run : b.perform call = .ok (reduced, q))
    (taken : b.matcher.events = []) : q.matcher.events = [] := by
  have reduce {middle : EventBuilder} (reduce : middle.reduceEvents = .ok (reduced, q)) :
      q.matcher.events = [] := by
    obtain ⟨_, rfl⟩ := reduceEvents_eq_ok reduce
    rfl
  cases call with
  | insert hit =>
    cases run
    rw [matcher_insert, taken]
  | push hits =>
    obtain ⟨_, _, last⟩ := process_eq_ok run
    exact reduce last
  | process =>
    obtain ⟨_, _, last⟩ := process_eq_ok run
    exact reduce last
  | flush =>
    obtain ⟨_, _, last⟩ := flush_eq_ok run
    exact reduce last

/-- All closed events are returned by the call that closes them. -/
theorem performAll_events {calls : List Call} {reduced : List ReducedEvent}
    (run : b.performAll calls = .ok (reduced, q)) (taken : b.matcher.events = []) :
    q.matcher.events = [] := by
  induction calls generalizing b reduced with
  | nil => cases run; exact taken
  | cons call rest ih =>
    obtain ⟨_, _, _, atFirst, atOthers, _⟩ := performAll_cons_eq_ok run
    exact ih atOthers (perform_events atFirst taken)

theorem Follows.beforePoll (follows : Follows config before b) {call : Call}
    (polling : b.beforePoll call = some ready) :
    Follows config (before ++ call.hits) ready ∧ ready.matcher = b.matcher := by
  cases call with
  | push hits =>
    cases polling
    exact ⟨follows.insertAll hits, matcher_addAll hits⟩
  | process =>
    cases polling
    rw [Call.hits, List.append_nil]
    exact ⟨follows, rfl⟩
  | insert hit => cases polling
  | flush => cases polling

/-- No plane is ahead of a hit that it still holds or that is still to come. -/
theorem Follows.horizon_le (follows : Follows config before b) {coming : List Hit} {entry : UInt8 × Clusterer}
    (member : entry ∈ b.clusterers)
    (ordered : ((before ++ coming).filter (·.plane == entry.1)).Pairwise fun a b => a.time ≤ b.time)
    {hit : Hit} (inside : hit ∈ entry.2.group ∨ hit ∈ coming ∧ hit.plane = entry.1) :
    b.matcher.horizon = 0 ∨ b.matcher.horizon ≤ hit.time := by
  obtain ⟨latest, there⟩ := follows.exists_latest member
  have low := Matcher.horizon_le there
  obtain ⟨ended, split, _, start⟩ := follows.behind entry member latest there
  rcases start with rfl | ⟨first, old, rfl⟩
  · exact Or.inl (UInt64.le_antisymm low (UInt64.zero_le))
  · right
    rw [List.filter_append, split, List.append_assoc, List.pairwise_append] at ordered
    refine UInt64.le_trans low (ordered.2.2 first old hit ?_)
    rcases inside with group | ⟨later, plane⟩
    · exact List.mem_append_left _ group
    · exact List.mem_append_right _ (List.mem_filter.mpr ⟨later, by simpa using plane⟩)

/-- No hit that could belong before or to an event that is closed can still come. -/
theorem closed_before_pending {start : EventBuilder} {reduced : List ReducedEvent}
    (earlier later : List Call) (call : Call)
    (new : ofConfig config = .ok start)
    (ordered : ∀ plane ∈ config.planes, (((earlier ++ call :: later).flatMap Call.hits).filter
      (·.plane == plane)).Pairwise fun first second => first.time ≤ second.time)
    (run : start.performAll earlier = .ok (reduced, b)) (polling : b.beforePoll call = some ready)
    (poll : ready.pollMatcher = .ok polled) :
    ready.matcher.events = [] ∧ ∀ e ∈ polled.matcher.events,
      ∀ hit ∈ polled.clusterers.flatMap (·.2.pending) ++ later.flatMap Call.hits,
        hit.plane ∈ config.planes →
          e.timeEnd.toNat + config.matching.latency.toNat < hit.time.toNat := by
  have follows := (Follows.start new).performAll run
  rw [List.nil_append] at follows
  obtain ⟨follows, same⟩ := follows.beforePoll polling
  have taken : ready.matcher.events = [] := by
    rw [same]
    obtain ⟨_, rfl⟩ := ofConfig_eq_ok new
    exact performAll_events run rfl
  refine ⟨taken, ?_⟩
  have moved := follows.moveClusters
  obtain ⟨m, matching, rfl⟩ := pollMatcher_eq_ok poll
  have matched := (moved.matchQueue matching).1
  have delivered := Matcher.insertAll_delivered follows.proper
  rw [← matcher_moveClusters] at delivered
  intro e closed hit member tracked
  have ends := matched.ends_before_horizon (by rw [moved.spanning]; exact moved.distinct)
    (by rw [moved.spanning]; exact moved.queued) (by rw [delivered.events, taken]) e closed
  rw [moved.latency] at ends
  have ahead : ready.moveClusters.matcher.horizon = 0 ∨ ready.moveClusters.matcher.horizon ≤ hit.time := by
    rw [List.flatMap_append, List.flatMap_cons, ← List.append_assoc] at ordered
    rcases List.mem_append.mp member with pending | later
    · obtain ⟨entry, inside, atHit⟩ := List.mem_flatMap.mp pending
      obtain ⟨old, _, taken⟩ := List.mem_map.mp inside
      have none : entry.2.clusters = [] := by
        rw [← taken]
        rfl
      have group : hit ∈ entry.2.group := by simpa [Clusterer.pending, none] using atHit
      have plane : entry.1 ∈ config.planes := by
        rw [← moved.planes]
        exact List.mem_map_of_mem inside
      exact moved.horizon_le inside (ordered _ plane) (Or.inl group)
    · obtain ⟨entry, inside, plane⟩ : ∃ entry ∈ ready.moveClusters.clusterers, entry.1 = hit.plane := by
        rw [← moved.planes] at tracked
        exact List.mem_map.mp tracked
      exact moved.horizon_le inside (plane ▸ ordered _ tracked) (Or.inr ⟨later, plane.symm⟩)
  rcases ahead with none | ahead
  · rw [none] at ends
    cases ends
  · rw [UInt64.le_iff_toNat_le] at ahead
    omega

/-- Three tracks far apart: as the third is over on both planes, the first one is closed. -/
theorem closed_before_pending_tracks :
    let hits : List Hit := [⟨1, 0, 4, 1⟩, ⟨1, 1, 4, 1⟩, ⟨1000, 0, 4, 1⟩, ⟨1000, 1, 4, 1⟩,
      ⟨2000, 0, 4, 1⟩, ⟨2000, 1, 4, 1⟩, ⟨3000, 0, 4, 1⟩, ⟨3000, 1, 4, 1⟩]
    ∃ start polled, ofConfig {} = .ok start ∧ (start.insertAll hits).pollMatcher = .ok polled ∧
      polled.matcher.events.map (·.timeEnd) = [1] ∧
      ∀ e ∈ polled.matcher.events,
        ∀ hit ∈ polled.clusterers.flatMap (·.2.pending) ++ [⟨3001, 0, 4, 1⟩],
          hit.plane ∈ [0, 1] → e.timeEnd.toNat + 0 < hit.time.toNat := by
  intro hits
  have closes : ((ofConfig {}).toOption.bind fun b => (b.insertAll hits).pollMatcher.toOption.map
      (·.matcher.events.map (·.timeEnd))) = some [1] := by decide +kernel
  obtain ⟨start, new, closes⟩ := Option.bind_eq_some_iff.mp closes
  obtain ⟨polled, poll, events⟩ := Option.map_eq_some_iff.mp closes
  have new := eq_ok_of_toOption new
  have poll := eq_ok_of_toOption poll
  refine ⟨start, polled, new, poll, events, ?_⟩
  have nothing : start.performAll [] = .ok ([], start) := rfl
  have polling : start.beforePoll (.push hits) = some (start.insertAll hits) := rfl
  exact (closed_before_pending [] [.insert ⟨3001, 0, 4, 1⟩] (.push hits) new (by decide +kernel) nothing polling
    poll).2

end EventFormation.EventBuilder
