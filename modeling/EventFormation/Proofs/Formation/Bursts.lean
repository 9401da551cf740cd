import EventFormation.Proofs.Formation.Streams
import EventFormation.Proofs.Matching.Bursts

namespace EventFormation.EventBuilder

variable {config : FormationConfig} {maxDelta : UInt64} {before hits : List Hit} {b ready : EventBuilder} {call : Call}
  {calls : List Call}

theorem moveClusters_of_beforePoll (polling : b.beforePoll call = some ready) :
    ready.moveClusters = b.handedOn call := by
  cases call <;> cases polling <;> rfl

/-- Handing clusters on neither makes any nor loses any. -/
theorem Running.outstanding_handedOn (running : Running config before b) (going : call ≠ .flush) :
    ((b.handedOn call).matcher.unmatched ++ (b.handedOn call).outstanding hits).Perm
      (b.matcher.unmatched ++ b.outstanding (call.hits ++ hits)) := by
  have added (first : List Hit) : (b.insertAll first).matcher.unmatched ++ (b.insertAll first).outstanding hits =
      b.matcher.unmatched ++ b.outstanding (first ++ hits) := by
    rw [outstanding_insertAll running.follows, matcher_addAll]
  cases call with
  | insert hit => exact .of_eq (added [hit])
  | push first => exact added first ▸ outstanding_moveClusters (running.follows.insertAll first)
  | process => exact outstanding_moveClusters running.follows
  | flush => exact absurd rfl going

/-- If all clusters of a run come in bursts, no poll takes one of them apart. -/
theorem Running.keepsTogether (running : Running config before b)
    (policy : config.matching.policy = .endProximity maxDelta) (going : Call.flush ∉ calls)
    (bursts : Bursts maxDelta.toNat (b.matcher.unmatched ++ b.outstanding (calls.flatMap Call.hits))) :
    ∀ m ∈ b.polls calls, m.KeepsTogether maxDelta.toNat := by
  -- What is unmatched and what is still to come stay in bursts together, since a call only moves clusters from
  -- the second to the first and a poll makes no new end.
  induction calls generalizing before b with
  | nil => simp [polls]
  | cons call rest ih =>
    rw [List.mem_cons, not_or] at going
    have handed := running.handedOn call
    have bursts' : Bursts maxDelta.toNat ((b.handedOn call).matcher.unmatched ++
        (b.handedOn call).outstanding (rest.flatMap Call.hits)) :=
      bursts.subset (running.outstanding_handedOn fun same => going.1 same.symm).subset
    obtain ⟨distinct, tracked⟩ := handed.tracked
    intro m member
    rw [polls, List.mem_append] at member
    rcases member with now | later
    · obtain ⟨ready, polling, rfl⟩ : ∃ ready, b.beforePoll call = some ready ∧ ready.moveClusters.matcher = m := by
        simpa using now
      rw [moveClusters_of_beforePoll polling]
      exact Matcher.keepsTogether_of_bursts (handed.end_rule policy) distinct tracked
        (bursts'.subset (List.subset_append_left _ _))
    · cases run : b.perform call with
      | error fault =>
        rw [run] at later
        cases later
      | ok result =>
        rw [run] at later
        refine ih (running.perform run) going.2 ?_ m later
        rcases running.perform_cases run with ⟨_, _, same⟩ | ⟨flushing, q, events, matching, matched, _, _, _, same⟩
        · rw [same]
          exact bursts'
        · have poll : flushing = false := by
            cases call <;> cases matching
            · rfl
            · rfl
            · exact absurd rfl going.1
          subst poll
          have ends := ((handed.follows.matchQueue matched).1).ends_old (handed.end_rule policy) distinct tracked
          refine bursts'.of_ends fun c inside => ?_
          rw [same] at inside
          rcases List.mem_append.mp inside with queued | coming
          · obtain ⟨d, old, value⟩ := ends c queued
            exact ⟨d, List.mem_append_left _ old, value⟩
          · exact ⟨c, List.mem_append_right _ coming, rfl⟩

end EventFormation.EventBuilder
