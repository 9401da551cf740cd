import EventFormation.Proofs.Event.Outline
import EventFormation.Proofs.Formation.Outstanding
import EventFormation.Proofs.Formation.Running
import EventFormation.Proofs.Matching.Outcomes

namespace EventFormation.EventBuilder

/-- The matchers as they are when the calls ask for what is final. -/
def polls (b : EventBuilder) : List Call → List Matcher
  | [] => []
  | call :: rest =>
    ((b.beforePoll call).map (·.moveClusters.matcher)).toList ++
      match b.perform call with
      | .ok (_, b) => b.polls rest
      | .error _ => []

variable {config : FormationConfig} {maxDelta : UInt64} {before hits : List Hit} {b ready q : EventBuilder}

theorem Running.end_rule (running : Running config before b) (policy : config.matching.policy = .endProximity maxDelta) :
    b.matcher.rule = (MatchPolicy.endProximity maxDelta).rule := by
  rw [running.rule, policy]

/-- A flush forms the chains of all that the matcher and the clusterers hold. -/
theorem Running.flush_outcome (running : Running config before b)
    (policy : config.matching.policy = .endProximity maxDelta) (limited : ClockLimited before) :
    ∃ events groups, Outcome maxDelta.toNat config.planes (b.matcher.unmatched ++ b.outstanding []) events groups ∧
      events.length = groups.length ∧ b.flush.map (·.1) = events.mapM config.reduction.reduce := by
  have all := running.flushClusterers.moveClusters
  obtain ⟨m, run⟩ := all.matchQueue_total limited true
  obtain ⟨distinct, tracked⟩ := all.tracked
  have matched := (all.follows.matchQueue run).1
  obtain ⟨groups, outcome, count⟩ := matched.flush_outcome (all.end_rule policy) distinct tracked all.taken
  rw [unmatched_flushClusterers running.follows, all.follows.spanning] at outcome
  refine ⟨m.events, groups, outcome, count, ?_⟩
  have flush : b.perform .flush = { b.flushClusterers.moveClusters with matcher := m }.reduceEvents :=
    perform_of_match rfl run
  show (b.perform .flush).map (·.1) = _
  rw [flush, reduceEvents_eq, all.reduction]
  show ((m.events.mapM config.reduction.reduce).map _).map _ = _
  cases m.events.mapM config.reduction.reduce <;> rfl

/-- A poll makes no difference to what is formed in the end, if the event in progress keeps together. -/
theorem Running.poll_outcome (running : Running config before b)
    (policy : config.matching.policy = .endProximity maxDelta) (limited : ClockLimited before)
    (ordered : ∀ plane ∈ config.planes, ((before ++ hits).filter (·.plane == plane)).Pairwise
      fun a b => a.time ≤ b.time) :
    ∃ m, b.process = { b.moveClusters with matcher := m }.reduceEvents ∧
      (∀ statistics, Running config before { b.moveClusters with matcher := m.take.2, statistics }) ∧
      ∀ others groups,
        Outcome maxDelta.toNat config.planes (m.unmatched ++ b.moveClusters.outstanding hits) others groups →
        ∃ whole, Outcome maxDelta.toNat config.planes (b.matcher.unmatched ++ b.outstanding hits)
            (m.events ++ others) whole ∧
          ((m.events ++ others).length = whole.length ↔
            b.moveClusters.matcher.KeepsTogether maxDelta.toNat ∧ others.length = groups.length) := by
  have moved := running.moveClusters
  obtain ⟨m, run⟩ := moved.matchQueue_total limited false
  obtain ⟨distinct, tracked⟩ := moved.tracked
  have matched := (moved.follows.matchQueue run).1
  obtain ⟨events, settled⟩ := matched.settled tracked
  have late : ∀ c ∈ b.moveClusters.outstanding hits, b.moveClusters.matcher.isReady c = false :=
    fun c member => outstanding_late running.follows ordered member
  have same : (b.moveClusters.matcher.unmatched ++ b.moveClusters.outstanding hits).Perm
      (b.matcher.unmatched ++ b.outstanding hits) := outstanding_moveClusters running.follows
  have process : b.perform .process = { b.moveClusters with matcher := m }.reduceEvents := perform_of_match rfl run
  refine ⟨m, process, fun statistics => moved.settle settled statistics, fun others groups outcome => ?_⟩
  rcases matched.poll_chains (moved.end_rule policy) distinct tracked with
    ⟨rfl, few⟩ | ⟨enough, closing, closed, group, remade, waiting, polled⟩
  · have keeps : b.moveClusters.matcher.KeepsTogether maxDelta.toNat := fun enough => absurd few (Nat.not_lt.mpr enough)
    rw [moved.taken, List.nil_append]
    exact ⟨groups, outcome.perm same, by simp [keeps]⟩
  · have closes : m.events = closing := by rw [polled.closing, moved.taken, List.nil_append]
    have sound : ∀ e ∈ closing, e.Sound ∧ e.planes = b.moveClusters.matcher.planes ∧ e.hits ≠ [] := by
      rw [← closes, settled.events, moved.taken, List.nil_append]
      exact settled.sound
    rw [← moved.follows.spanning] at outcome
    obtain ⟨whole, all, count⟩ := polled.outcome sound late outcome
    rw [moved.follows.spanning] at all
    rw [closes, polled.keepsTogether_iff run enough]
    exact ⟨whole, all.perm same, count⟩

theorem Running.outstanding_beforePoll (running : Running config before b) {call : Call}
    (polling : b.beforePoll call = some ready) : ready.outstanding hits = b.outstanding (call.hits ++ hits) := by
  cases call with
  | push hits =>
    cases polling
    exact outstanding_insertAll running.follows hits
  | process =>
    cases polling
    rfl
  | insert hit => cases polling
  | flush => cases polling

theorem performAll_cons_map {call : Call} {rest : List Call} {first : List ReducedEvent}
    (run : b.perform call = .ok (first, q)) :
    (b.performAll (call :: rest)).map (·.1) = (q.performAll rest).map fun result => first ++ result.1 := by
  show (b.perform call >>= _).map _ = _
  rw [run]
  show (q.performAll rest >>= _).map _ = _
  cases q.performAll rest <;> rfl

/-- What calls return in the end, once a flush follows them: there is an event for each chain of the
clusters exactly if at every poll the event in progress keeps together. -/
def Foreseen (config : FormationConfig) (maxDelta : UInt64) (b : EventBuilder) (calls : List Call) : Prop :=
  ∃ events groups,
    Outcome maxDelta.toNat config.planes (b.matcher.unmatched ++ b.outstanding (calls.flatMap Call.hits)) events
      groups ∧
    (b.performAll (calls ++ [.flush])).map (·.1) = events.mapM config.reduction.reduce ∧
    (checkCapacity config.reduction.maxTimebins 8 = .ok () →
      (events.length = groups.length ↔ ∀ m ∈ b.polls calls, m.KeepsTogether maxDelta.toNat))

variable {calls : List Call}

theorem Running.foreseen_flush (running : Running config before b)
    (policy : config.matching.policy = .endProximity maxDelta) (limited : ClockLimited before) :
    Foreseen config maxDelta b [] := by
  obtain ⟨events, groups, outcome, count, flush⟩ := running.flush_outcome policy limited
  refine ⟨events, groups, outcome, ?_, by simp [count, polls]⟩
  rw [List.nil_append, ← flush]
  show (b.flush >>= _).map _ = _
  cases b.flush with
  | error fault => rfl
  | ok result =>
    show Except.ok _ = Except.ok _
    rw [List.append_nil]

theorem Running.foreseen_insert (running : Running config before b) {hit : Hit}
    (rest : Foreseen config maxDelta (b.insert hit) calls) : Foreseen config maxDelta b (.insert hit :: calls) := by
  obtain ⟨events, groups, outcome, run, count⟩ := rest
  have same : b.insert hit = b.insertAll [hit] := rfl
  rw [same, matcher_addAll, outstanding_insertAll running.follows] at outcome
  refine ⟨events, groups, outcome, ?_, count⟩
  have inserted : b.perform (.insert hit) = .ok ([], b.insert hit) := rfl
  rw [List.cons_append, performAll_cons_map inserted, ← run]
  rfl

theorem Running.foreseen_poll (running : Running config before b)
    (policy : config.matching.policy = .endProximity maxDelta) {call : Call}
    (polling : b.beforePoll call = some ready) (limited : ClockLimited (before ++ call.hits))
    (ordered : ∀ plane ∈ config.planes, ((before ++ call.hits ++ calls.flatMap Call.hits).filter
      (·.plane == plane)).Pairwise fun a b => a.time ≤ b.time)
    (rest : ∀ q, Running config (before ++ call.hits) q → Foreseen config maxDelta q calls) :
    Foreseen config maxDelta b (call :: calls) := by
  have polled := running.beforePoll polling
  have same := (running.follows.beforePoll polling).2
  obtain ⟨m, process, settled, resume⟩ := polled.poll_outcome policy limited ordered
  rw [← perform_eq_process polling, reduceEvents_eq] at process
  rw [Foreseen, List.flatMap_cons, ← running.outstanding_beforePoll polling, ← same]
  cases reduced : m.events.mapM ready.moveClusters.reduction.reduce with
  | error fault =>
    obtain ⟨others, groups, outcome, _, _⟩ := rest _ (settled ready.statistics)
    obtain ⟨whole, all, _⟩ := resume others groups outcome
    have failed : b.perform call = .error fault := by
      rw [process]
      show Except.map _ (m.events.mapM ready.moveClusters.reduction.reduce) = _
      rw [reduced]
      rfl
    rw [polled.moveClusters.reduction] at reduced
    refine ⟨m.events ++ others, whole, all, ?_, fun enough => ?_⟩
    · rw [List.cons_append, List.mapM_append, reduced]
      show (b.perform call >>= _).map _ = _
      rw [failed]
      rfl
    · obtain ⟨results, total⟩ := mapM_total fun e (_ : e ∈ m.events) => ReductionConfig.reduce_total enough e
      rw [reduced] at total
      cases total
  | ok first =>
    obtain ⟨others, groups, outcome, run, count⟩ := rest _ (settled (ready.moveClusters.statistics.count first))
    obtain ⟨whole, all, equal⟩ := resume others groups outcome
    have done : b.perform call = .ok (first, { ready.moveClusters with
        matcher := m.take.2, statistics := ready.moveClusters.statistics.count first }) := by
      rw [process]
      show Except.map _ (m.events.mapM ready.moveClusters.reduction.reduce) = _
      rw [reduced]
      rfl
    rw [polled.moveClusters.reduction] at reduced
    refine ⟨m.events ++ others, whole, all, ?_, fun enough => ?_⟩
    · rw [List.cons_append, performAll_cons_map done, List.mapM_append, reduced, ← run]
      cases EventBuilder.performAll _ _ <;> rfl
    · rw [equal, count enough]
      simp [polls, polling, done]

theorem Running.foreseen (running : Running config before b)
    (policy : config.matching.policy = .endProximity maxDelta) (calls : List Call)
    (limited : ClockLimited (before ++ calls.flatMap Call.hits))
    (ordered : ∀ plane ∈ config.planes, ((before ++ calls.flatMap Call.hits).filter (·.plane == plane)).Pairwise
      fun a b => a.time ≤ b.time)
    (going : Call.flush ∉ calls) : Foreseen config maxDelta b calls := by
  induction calls generalizing before b with
  | nil =>
    rw [List.flatMap_nil, List.append_nil] at limited
    exact running.foreseen_flush policy limited
  | cons call rest ih =>
    rw [List.mem_cons, not_or] at going
    rw [List.flatMap_cons, ← List.append_assoc] at limited ordered
    cases polling : b.beforePoll call with
    | none =>
      cases call with
      | insert hit => exact running.foreseen_insert (ih (running.insertAll [hit]) limited ordered going.2)
      | push hits => cases polling
      | process => cases polling
      | flush => exact absurd rfl going.1
    | some ready =>
      exact running.foreseen_poll policy polling (limited.subset (List.subset_append_left _ _)) ordered
        fun q later => ih later limited ordered going.2

end EventFormation.EventBuilder
