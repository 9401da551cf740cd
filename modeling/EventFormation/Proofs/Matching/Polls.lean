import EventFormation.Proofs.Matching.Runs

namespace EventFormation

namespace Event

/-- What is taken out of an event can be put into it again. -/
theorem Sound.drain_tracked {e : Event} (sound : e.Sound) : ∀ c ∈ e.drain, c.Tracked e.planes := by
  intro c member
  obtain ⟨slot, inside, rfl⟩ := List.mem_map.mp member
  obtain ⟨inSlots, filled⟩ := mem_populated.mp inside
  have faithful := sound.faithful slot inSlots
  refine ⟨faithful, slot.1, List.mem_map_of_mem inSlots, ?_⟩
  exact (faithful.plane slot.1).mpr ⟨filled, sound.own slot inSlots⟩

end Event

namespace Pass

variable {t : Terms} {planes : List UInt8} {queue : List Cluster} {p : Pass}

theorem held_perm (flushing : Bool) (p : Pass) :
    p.held.Perm (p.remaining flushing ++ (p.events flushing).flatMap Event.drain) := by
  cases flushing with
  | false =>
    simp only [held, remaining, events, Bool.false_and, Bool.false_eq_true, if_false]
    rfl
  | true =>
    cases filled : p.event.isEmpty with
    | false =>
      rw [← Multiset.coe_eq_coe]
      simp only [held, remaining, events, filled, Bool.not_false, Bool.and_true, if_true,
        Series.toList_push, List.flatMap_append, List.flatMap_cons, List.flatMap_nil, List.append_nil,
        ← Multiset.coe_add]
      abel
    | true =>
      have none : p.event.drain = [] := Event.drain_eq_nil (Event.isEmpty_iff.mp filled)
      simp only [held, remaining, events, filled, none, Bool.not_true, Bool.and_false,
        Bool.false_eq_true, if_false, if_true, List.append_nil]
      rfl

theorem Walked.kept (walked : Walked t planes queue p) (flushing : Bool) :
    Gathered queue (p.remaining flushing ++ (p.events flushing).flatMap Event.drain) :=
  walked.gathered.perm_right (p.held_perm flushing)

theorem Walked.remaining_tracked (walked : Walked t planes queue p) (flushing : Bool) :
    ∀ c ∈ p.remaining flushing, c.Tracked planes := by
  intro c member
  simp only [remaining, List.mem_append] at member
  rcases member with (inQueue | inEvent) | deferred
  · exact walked.sound.queued c inQueue
  · cases flushing with
    | false =>
      have tracked := walked.sound.event.drain_tracked c inEvent
      rwa [walked.sound.spanning] at tracked
    | true => simp at inEvent
  · exact walked.sound.deferred c deferred

theorem Walked.events_sound (walked : Walked t planes queue p) (flushing : Bool) :
    ∀ e ∈ p.events flushing, e.Sound ∧ e.planes = planes ∧ e.hits ≠ [] := by
  intro e member
  unfold events at member
  split at member
  · rename_i filled
    rw [Series.toList_push, List.mem_append, List.mem_singleton] at member
    rcases member with old | rfl
    · exact walked.sound.closed e old
    · refine ⟨walked.sound.event, walked.sound.spanning, ?_⟩
      simp only [Bool.and_eq_true, Bool.not_eq_true', ← Bool.not_eq_true, Event.isEmpty_iff] at filled
      exact filled.2
  · exact walked.sound.closed e member

/-- If all clusters are ready, a walk that ends for good leaves none. -/
theorem Walked.remaining_eq_nil (walked : Walked t planes queue p) (flushing : t.flushing = true)
    (ready : ∀ c, t.ready c = true) : p.remaining true = [] := by
  rcases next?_eq_none walked.ended with ⟨none, waiting⟩ | ⟨front, rest, _, late⟩
  · simp [remaining, none, waiting flushing]
  · rw [ready front] at late
    cases late

end Pass

namespace Matcher

theorem sortByEnd_perm (clusters : List Cluster) : (sortByEnd clusters).Perm clusters := by
  rw [sortByEnd, stableSort_eq]
  exact List.mergeSort_perm clusters _

/-- What becomes of a matcher whose queue is matched. -/
inductive Matched (m : Matcher) (flushing : Bool) : Matcher → Prop
  | skipped : m.unmatched = [] ∨ flushing = false ∧ m.unmatched.length < m.minimumQueued →
      Matched m flushing m
  | walked {maxSpan pass} : m.unmatched ≠ [] → (flushing = false → m.minimumQueued ≤ m.unmatched.length) →
      longestSpan (sortByEnd m.unmatched) = .ok maxSpan →
      Pass.walk (m.terms flushing maxSpan)
        { queue := sortByEnd m.unmatched, event := Event.ofPlanes m.planes } = .ok pass →
      Pass.Walked (m.terms flushing maxSpan) m.planes (sortByEnd m.unmatched) pass →
      Matched m flushing { m with
        unmatched := pass.remaining flushing
        events := m.events ++ pass.events flushing
        eventCount := m.eventCount + (pass.events flushing).length }

variable {m q : Matcher} {flushing : Bool}

theorem sortByEnd_tracked {planes : List UInt8} {clusters : List Cluster}
    (tracked : ∀ c ∈ clusters, c.Tracked planes) : ∀ c ∈ sortByEnd clusters, c.Tracked planes :=
  fun c member => tracked c ((sortByEnd_perm clusters).mem_iff.mp member)

theorem matchQueue_matched (distinct : m.planes.Nodup) (tracked : ∀ c ∈ m.unmatched, c.Tracked m.planes)
    (run : m.matchQueue flushing = .ok q) : Matched m flushing q := by
  unfold matchQueue at run
  split at run
  · rename_i idle
    cases run
    simp only [Bool.or_eq_true, List.isEmpty_iff, Bool.and_eq_true, Bool.not_eq_true',
      decide_eq_true_eq] at idle
    exact .skipped idle
  · rename_i busy
    obtain ⟨maxSpan, spans, run⟩ := bind_eq_ok_iff.mp run
    obtain ⟨pass, walk, run⟩ := bind_eq_ok_iff.mp run
    simp only [Bool.or_eq_true, List.isEmpty_iff, Bool.and_eq_true, Bool.not_eq_true',
      decide_eq_true_eq, not_or, not_and, Nat.not_lt] at busy
    have walked := Pass.walk_walked distinct (sortByEnd_tracked tracked) walk
    cases run
    have refused : m.rejected + pass.refused = m.rejected := by rw [walked.sound.refused, Nat.add_zero]
    rw [refused]
    exact .walked busy.1 busy.2 spans walk walked

theorem matchQueue_total {pool : List Hit} (flushing : Bool) (answers : m.rule.Answers pool)
    (limited : ClockLimited pool) (distinct : m.planes.Nodup)
    (tracked : ∀ c ∈ m.unmatched, c.Tracked m.planes)
    (inside : m.unmatched.flatMap Cluster.hits ⊆ pool) : ∃ q, m.matchQueue flushing = .ok q := by
  have sorted := sortByEnd_tracked tracked
  have within : (sortByEnd m.unmatched).flatMap Cluster.hits ⊆ pool :=
    fun hit member => inside (((sortByEnd_perm m.unmatched).flatMap_right _).subset member)
  obtain ⟨maxSpan, spans⟩ := longestSpan_total limited (fun c member => (sorted c member).faithful)
    fun c member hit atHit => within (List.mem_flatMap.mpr ⟨c, member, atHit⟩)
  obtain ⟨pass, walk⟩ := Pass.walk_total (t := m.terms flushing maxSpan) answers distinct sorted within
  unfold matchQueue
  split
  · exact ⟨_, rfl⟩
  · simp only [spans, walk, bind, Except.bind]
    exact ⟨_, rfl⟩

/-- How a matcher differs from what it was, once it has closed these events. -/
structure Settled (m q : Matcher) (closed : List Event) : Prop where
  rule : q.rule = m.rule
  latency : q.latency = m.latency
  minimumQueued : q.minimumQueued = m.minimumQueued
  progress : q.progress = m.progress
  events : q.events = m.events ++ closed
  counted : q.eventCount = m.eventCount + closed.length
  rejected : q.rejected = m.rejected
  gathered : Gathered m.unmatched (q.unmatched ++ closed.flatMap Event.drain)
  queued : ∀ c ∈ q.unmatched, c.Tracked m.planes
  sound : ∀ e ∈ closed, e.Sound ∧ e.planes = m.planes ∧ e.hits ≠ []

theorem Matched.settled (matched : Matched m flushing q) (tracked : ∀ c ∈ m.unmatched, c.Tracked m.planes) :
    ∃ closed, Settled m q closed := by
  cases matched with
  | skipped idle =>
    exact ⟨[], rfl, rfl, rfl, rfl, by simp, by simp, rfl, by simpa using .refl m.unmatched, tracked, by simp⟩
  | @walked maxSpan pass some enough spans run walked =>
    refine ⟨pass.events flushing, rfl, rfl, rfl, rfl, rfl, rfl, rfl, ?_, walked.remaining_tracked flushing,
      walked.events_sound flushing⟩
    exact (walked.kept flushing).perm_left (sortByEnd_perm m.unmatched)

/-- Nothing is left once everything is matched. -/
theorem Matched.unmatched_eq_nil (matched : Matched m true q) : q.unmatched = [] := by
  cases matched with
  | skipped idle => simpa using idle
  | walked some enough spans run walked => exact walked.remaining_eq_nil rfl fun c => by simp

end Matcher

end EventFormation
