import EventFormation.Proofs.Formation.Accounts
import EventFormation.Proofs.Matching.Overflow

namespace EventFormation

theorem checkCapacity_eq_error_iff {count size : Nat} {fault : Fault} :
    checkCapacity count size = .error fault ↔ fault = .capacityOverflow ∧ maxBlockBytes < count * size := by
  unfold checkCapacity
  split
  · rename_i enough
    constructor
    · intro failed
      cases failed
    · rintro ⟨_, full⟩
      exact absurd enough (Nat.not_le.mpr full)
  · rename_i full
    rw [Except.error.injEq, eq_comm]
    exact (and_iff_left (Nat.not_le.mp full)).symm

namespace EventBuilder

/-- All that can make a call fail. -/
inductive Breaks (config : FormationConfig) (b : EventBuilder) (call : Call) : Fault → Prop
  | /-- Clusters or an event are longer than the clock can count. -/ clock {flushing} :
      call.flushing? = some flushing → (b.handedOn call).matcher.Overflows config.matching.policy flushing →
      Breaks config b call .sumOverflow
  | /-- There are events to be reduced and no block holds the times of a window. -/ window {flushing m} :
      call.flushing? = some flushing → (b.handedOn call).matcher.matchQueue flushing = .ok m → m.events ≠ [] →
      maxBlockBytes < config.reduction.maxTimebins * 8 → Breaks config b call .capacityOverflow

variable {config : FormationConfig} {before : List Hit} {b : EventBuilder} {m : Matcher} {call : Call} {fault : Fault}
  {flushing : Bool}

/-- Events that were closed cannot be reduced just where there is no room for a window. -/
theorem Running.reduceEvents_eq_error_iff (running : Running config before b)
    (matched : b.matcher.matchQueue flushing = .ok m) :
    { b with matcher := m }.reduceEvents = .error fault ↔
      fault = .capacityOverflow ∧ m.events ≠ [] ∧ maxBlockBytes < config.reduction.maxTimebins * 8 := by
  have settled := running.settled matched
  rw [reduceEvents_eq]
  show (m.events.mapM b.reduction.reduce).map _ = _ ↔ _
  rw [running.reduction]
  by_cases none : m.events = []
  · rw [none]
    constructor
    · intro failed
      cases failed
    · rintro ⟨_, some, _⟩
      exact absurd rfl some
  cases room : checkCapacity config.reduction.maxTimebins 8 with
  | ok enough =>
    obtain ⟨reduced, all⟩ := mapM_total fun e (_ : e ∈ m.events) => ReductionConfig.reduce_total room e
    rw [all]
    constructor
    · intro failed
      cases failed
    · rintro ⟨rfl, _, full⟩
      rw [checkCapacity_eq_error_iff.mpr ⟨rfl, full⟩] at room
      cases room
  | error reason =>
    have fails : m.events.mapM config.reduction.reduce = .error reason := by
      have each : ∀ e ∈ m.events, config.reduction.reduce e = .error reason := fun e closed =>
        ReductionConfig.reduce_fault room (settled.sound e closed).1 (settled.sound e closed).2.2
      obtain ⟨e, closed⟩ := List.exists_mem_of_ne_nil m.events none
      exact mapM_fault (fun e closed => Or.inl (each e closed)) ⟨e, closed, each e closed⟩
    obtain ⟨rfl, full⟩ := checkCapacity_eq_error_iff.mp room
    rw [fails]
    show Except.error _ = _ ↔ _
    rw [Except.error.injEq, eq_comm]
    exact (and_iff_left ⟨none, full⟩).symm

theorem Running.perform_eq_error_iff (running : Running config before b) :
    b.perform call = .error fault ↔ b.Breaks config call fault := by
  cases matching : call.flushing? with
  | none =>
    constructor
    · intro failed
      cases call <;> cases matching
      cases failed
    · rintro (⟨there, _⟩ | ⟨there, _⟩) <;> rw [matching] at there <;> cases there
  | some flushing =>
    have handed := running.handedOn call
    obtain ⟨distinct, tracked⟩ := handed.tracked
    rw [perform_eq_bind matching, bind_eq_error_iff, Matcher.matchQueue_eq_error_iff handed.rule distinct tracked]
    constructor
    · rintro (⟨rfl, overflows⟩ | ⟨m, matched, failed⟩)
      · exact .clock matching overflows
      · obtain ⟨rfl, some, full⟩ := (handed.reduceEvents_eq_error_iff matched).mp failed
        exact .window matching matched some full
    · rintro (⟨there, overflows⟩ | ⟨there, matched, some, full⟩)
      · rw [matching] at there
        cases there
        exact Or.inl ⟨rfl, overflows⟩
      · rw [matching] at there
        cases there
        exact Or.inr ⟨_, matched, (handed.reduceEvents_eq_error_iff matched).mpr ⟨rfl, some, full⟩⟩

/-- Only hits of tracked planes come to be matched. -/
theorem Running.inside_accepted (running : Running config before b) :
    b.matcher.unmatched.flatMap Cluster.hits ⊆ accepted config before := by
  intro hit member
  obtain ⟨c, queued, atHit⟩ := List.mem_flatMap.mp member
  obtain ⟨faithful, plane, there, on⟩ := running.follows.queued c queued
  have own : hit.plane = plane := ((faithful.plane plane).mp on).2 hit atHit
  exact List.mem_filter.mpr ⟨running.inside member, List.contains_iff_mem.mpr (own ▸ there)⟩

/-- A clock that can count the time between any two hits of tracked planes, and room for a window: nothing fails. -/
theorem Running.not_breaks (running : Running config before b)
    (limited : ClockLimited (accepted config (before ++ call.hits)))
    (room : config.reduction.maxTimebins * 8 ≤ maxBlockBytes) : ¬ b.Breaks config call fault := by
  have handed := running.handedOn call
  obtain ⟨distinct, tracked⟩ := handed.tracked
  rintro (⟨_, overflows⟩ | ⟨_, _, _, full⟩)
  · exact overflows.long distinct tracked (limited.subset handed.inside_accepted)
  · exact absurd room (Nat.not_le.mpr full)

end EventBuilder

end EventFormation
