import EventFormation.Proofs.Event.Outline
import EventFormation.Proofs.Formation.Safety

namespace EventFormation.EventBuilder

/-- A builder that was made from a configuration and has seen these hits, between two calls. -/
structure Running (config : FormationConfig) (before : List Hit) (b : EventBuilder) : Prop where
  follows : Follows config before b
  taken : b.matcher.events = []
  rule : b.matcher.rule = config.matching.policy.rule
  reduction : b.reduction = config.reduction
  inside : b.matcher.unmatched.flatMap Cluster.hits ⊆ before

/-- Whether a call matches what is final or everything, none if it does not match at all. -/
def Call.flushing? : Call → Option Bool
  | .insert _ => none
  | .push _ | .process => some false
  | .flush => some true

/-- The builder as it is when a call has handed its clusters on and comes to match them. -/
def handedOn (b : EventBuilder) : Call → EventBuilder
  | .insert hit => b.insert hit
  | .push hits => (b.insertAll hits).moveClusters
  | .process => b.moveClusters
  | .flush => b.flushClusterers.moveClusters

variable {config : FormationConfig} {before : List Hit} {b q ready : EventBuilder} {m : Matcher} {call : Call}
  {calls : List Call} {reduced : List ReducedEvent} {flushing : Bool}

theorem Running.start (new : ofConfig config = .ok b) : Running config [] b := by
  have follows := Follows.start new
  obtain ⟨_, rfl⟩ := ofConfig_eq_ok new
  exact ⟨follows, rfl, rfl, rfl, by simp⟩

theorem Running.insertAll (running : Running config before b) (hits : List Hit) :
    Running config (before ++ hits) (b.insertAll hits) where
  follows := running.follows.insertAll hits
  taken := by rw [matcher_addAll, running.taken]
  rule := by rw [matcher_addAll, running.rule]
  reduction := by rw [reduction_addAll, running.reduction]
  inside := by
    rw [matcher_addAll]
    exact List.subset_append_of_subset_left _ running.inside

theorem Running.moveClusters (running : Running config before b) : Running config before b.moveClusters := by
  have delivered := Matcher.insertAll_delivered running.follows.proper
  rw [← matcher_moveClusters] at delivered
  refine ⟨running.follows.moveClusters, delivered.events.trans running.taken,
    delivered.rule.trans running.rule, running.reduction, ?_⟩
  rw [delivered.unmatched, List.flatMap_append, List.append_subset]
  refine ⟨running.inside, fun hit member => ?_⟩
  obtain ⟨c, handed, atHit⟩ := List.mem_flatMap.mp member
  obtain ⟨part, given, inPart⟩ := List.mem_flatMap.mp handed
  obtain ⟨entry, atEntry, rfl⟩ := List.mem_map.mp given
  obtain ⟨latest, there⟩ := running.follows.exists_latest atEntry
  obtain ⟨ended, split, clusters, _⟩ := running.follows.behind entry atEntry latest there
  have seen : hit ∈ before.filter (·.plane == entry.1) := by
    rw [split]
    exact List.mem_append_left _ ((clusters c inPart).2.2 atHit)
  exact (List.mem_filter.mp seen).1

theorem Running.flushClusterers (running : Running config before b) : Running config before b.flushClusterers :=
  ⟨running.follows.flushClusterers, running.taken, running.rule, running.reduction, running.inside⟩

theorem Running.tracked (running : Running config before b) :
    b.matcher.planes.Nodup ∧ ∀ c ∈ b.matcher.unmatched, c.Tracked b.matcher.planes := by
  rw [running.follows.spanning]
  exact ⟨running.follows.distinct, running.follows.queued⟩

theorem Running.matchQueue_total (running : Running config before b) (limited : ClockLimited before)
    (flushing : Bool) : ∃ m, b.matcher.matchQueue flushing = .ok m := by
  obtain ⟨distinct, tracked⟩ := running.tracked
  refine Matcher.matchQueue_total flushing ?_ limited distinct tracked running.inside
  rw [running.rule]
  exact MatchPolicy.answers _ limited

theorem Running.settled (running : Running config before b) (run : b.matcher.matchQueue flushing = .ok m) :
    b.matcher.Settled m m.events := by
  obtain ⟨events, settled⟩ := (running.follows.matchQueue run).1.settled running.tracked.2
  have closed : m.events = events := by rw [settled.events, running.taken, List.nil_append]
  rw [closed]
  exact settled

/-- The builder after its clusters were matched and the closed events were reduced. -/
theorem Running.settle (running : Running config before b) {events : List Event}
    (settled : b.matcher.Settled m events) (statistics : FormationStatistics) :
    Running config before { b with matcher := m.take.2, statistics } := by
  have follows := running.follows.settle settled
  refine ⟨⟨follows.distinct, follows.planes, follows.spanning, follows.latency, follows.queued, follows.behind⟩, rfl,
    settled.rule.trans running.rule, running.reduction, fun hit member => ?_⟩
  refine running.inside (settled.gathered.hits_perm.symm.subset ?_)
  rw [List.flatMap_append]
  exact List.mem_append_left _ member

theorem Running.beforePoll (running : Running config before b) (polling : b.beforePoll call = some ready) :
    Running config (before ++ call.hits) ready := by
  cases call with
  | push hits =>
    cases polling
    exact running.insertAll hits
  | process =>
    cases polling
    rw [Call.hits, List.append_nil]
    exact running
  | insert hit => cases polling
  | flush => cases polling

theorem Running.handedOn (running : Running config before b) (call : Call) :
    Running config (before ++ call.hits) (b.handedOn call) := by
  cases call with
  | insert hit => exact running.insertAll [hit]
  | push hits => exact (running.insertAll hits).moveClusters
  | process =>
    rw [Call.hits, List.append_nil]
    exact running.moveClusters
  | flush =>
    rw [Call.hits, List.append_nil]
    exact running.flushClusterers.moveClusters

theorem perform_eq_process (polling : b.beforePoll call = some ready) : b.perform call = ready.process := by
  cases call <;> cases polling <;> rfl

theorem reduceEvents_eq (b : EventBuilder) :
    b.reduceEvents = (b.matcher.events.mapM b.reduction.reduce).map fun reduced =>
      (reduced, { b with matcher := b.matcher.take.2, statistics := b.statistics.count reduced }) := by
  show b.matcher.events.mapM b.reduction.reduce >>= _ = _
  cases b.matcher.events.mapM b.reduction.reduce <;> rfl

/-- A call that matches does so once its clusters are handed on, and then reduces what was closed. -/
theorem perform_eq_bind (matching : call.flushing? = some flushing) :
    b.perform call = ((b.handedOn call).matcher.matchQueue flushing) >>= fun m =>
      { b.handedOn call with matcher := m }.reduceEvents := by
  cases call with
  | insert hit => cases matching
  | push hits => cases matching; exact bind_assoc ..
  | process => cases matching; exact bind_assoc ..
  | flush => cases matching; exact bind_assoc ..

theorem perform_of_match (matching : call.flushing? = some flushing)
    (run : (b.handedOn call).matcher.matchQueue flushing = .ok m) :
    b.perform call = { b.handedOn call with matcher := m }.reduceEvents := by
  rw [perform_eq_bind matching, run]
  rfl

/-- What a call that returns has done: it only added a hit, or it closed some events and reduced them. -/
theorem Running.perform_cases (running : Running config before b) (run : b.perform call = .ok (reduced, q)) :
    (call.flushing? = none ∧ reduced = [] ∧ q = b.handedOn call) ∨
      ∃ flushing m events, call.flushing? = some flushing ∧ (b.handedOn call).matcher.matchQueue flushing = .ok m ∧
        (b.handedOn call).matcher.Settled m events ∧ m.events = events ∧
        events.mapM config.reduction.reduce = .ok reduced ∧
        q = { b.handedOn call with
          matcher := m.take.2, statistics := (b.handedOn call).statistics.count reduced } := by
  cases matching : call.flushing? with
  | none =>
    cases call <;> cases matching
    cases run
    exact Or.inl ⟨rfl, rfl, rfl⟩
  | some flushing =>
    rw [perform_eq_bind matching] at run
    obtain ⟨m, matched, reduce⟩ := bind_eq_ok_iff.mp run
    obtain ⟨all, rfl⟩ := reduceEvents_eq_ok reduce
    have handed := running.handedOn call
    refine Or.inr ⟨flushing, m, m.events, rfl, matched, handed.settled matched, rfl, ?_, rfl⟩
    rw [← handed.reduction]
    exact all

theorem Running.perform (running : Running config before b) (run : b.perform call = .ok (reduced, q)) :
    Running config (before ++ call.hits) q := by
  have handed := running.handedOn call
  rcases running.perform_cases run with ⟨_, _, rfl⟩ | ⟨flushing, m, events, _, _, settled, _, _, rfl⟩
  · exact handed
  · exact handed.settle settled _

theorem Running.performAll (running : Running config before b) (run : b.performAll calls = .ok (reduced, q)) :
    Running config (before ++ calls.flatMap Call.hits) q := by
  induction calls generalizing before b reduced with
  | nil =>
    cases run
    rwa [List.flatMap_nil, List.append_nil]
  | cons call rest ih =>
    obtain ⟨_, _, _, atFirst, atOthers, _⟩ := performAll_cons_eq_ok run
    rw [List.flatMap_cons, ← List.append_assoc]
    exact ih (running.perform atFirst) atOthers

/-- If the clock can count the time between any two hits and a window can be kept, every call returns. -/
theorem Running.perform_total (running : Running config before b) (limited : ClockLimited (before ++ call.hits))
    (enough : checkCapacity config.reduction.maxTimebins 8 = .ok ()) : ∃ reduced q, b.perform call = .ok (reduced, q) := by
  cases matching : call.flushing? with
  | none =>
    cases call <;> cases matching
    exact ⟨_, _, rfl⟩
  | some flushing =>
    have handed := running.handedOn call
    obtain ⟨m, run⟩ := handed.matchQueue_total limited flushing
    obtain ⟨reduced, all⟩ := mapM_total fun e (_ : e ∈ m.events) => ReductionConfig.reduce_total enough e
    rw [perform_of_match matching run, reduceEvents_eq, handed.reduction]
    exact ⟨reduced, _, by rw [all]; rfl⟩

theorem Running.performAll_total (running : Running config before b)
    (limited : ClockLimited (before ++ calls.flatMap Call.hits))
    (enough : checkCapacity config.reduction.maxTimebins 8 = .ok ()) :
    ∃ reduced q, b.performAll calls = .ok (reduced, q) := by
  induction calls generalizing before b with
  | nil => exact ⟨[], b, rfl⟩
  | cons call rest ih =>
    rw [List.flatMap_cons, ← List.append_assoc] at limited
    obtain ⟨first, middle, atFirst⟩ := running.perform_total (limited.subset (List.subset_append_left _ _)) enough
    obtain ⟨others, last, atOthers⟩ := ih (running.perform atFirst) limited
    refine ⟨first ++ others, last, ?_⟩
    show b.perform call >>= _ = _
    rw [atFirst]
    show middle.performAll rest >>= _ = _
    rw [atOthers]
    rfl

end EventFormation.EventBuilder
