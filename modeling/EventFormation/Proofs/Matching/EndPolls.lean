import EventFormation.Proofs.Matching.EndWalk
import EventFormation.Proofs.Matching.Horizon

namespace EventFormation.Matcher

/-- The parts of the event in progress, which a poll puts back into the queue plane by plane, still
follow each other closely. -/
def KeepsTogether (maxDelta : Nat) (m : Matcher) : Prop :=
  m.minimumQueued ≤ m.unmatched.length → ∀ q, m.poll = .ok q → Linked maxDelta (q.unmatched.filter m.isReady)

/-- All that a poll does: it closes the events made of some chains, and puts back what it has remade of
the beginning of another one. -/
structure Polled (maxDelta : Nat) (m q : Matcher) (events : List Event) (closed : List (List Cluster))
    (group remade waiting : List Cluster) : Prop where
  closing : q.events = m.events ++ events
  made : List.Forall₂ Event.Made events closed
  before : m.unmatched.Perm (closed.flatten ++ (group ++ waiting))
  after : q.unmatched.Perm (remade ++ waiting)
  chains : Chains maxDelta closed
  linked : Linked maxDelta group
  apart : ∀ earlier ∈ closed, Apart maxDelta earlier (group ++ waiting)
  hits : (remade.flatMap Cluster.hits).Perm (group.flatMap Cluster.hits)
  kept : ∀ c ∈ remade, ∃ d ∈ group, d.timeEnd = c.timeEnd
  ends : closed = [] ∧ group = [] ∧ remade = [] ∨ ∃ time, EndsAt group time ∧ EndsAt remade time
  ready : ∀ c ∈ remade, m.isReady c = true
  late : ∀ c ∈ waiting, m.isReady c = false

variable {m q : Matcher} {maxDelta : UInt64}

theorem sortByEnd_sorted (clusters : List Cluster) :
    (sortByEnd clusters).Pairwise fun a b => a.timeEnd ≤ b.timeEnd := by
  have sorted := @List.pairwise_mergeSort Cluster (fun a b => decide (a.timeEnd ≤ b.timeEnd))
    (fun a b c hab hbc => by simp only [decide_eq_true_eq] at *; exact UInt64.le_trans hab hbc)
    (fun a b => by simpa using UInt64.le_total a.timeEnd b.timeEnd) clusters
  simpa only [sortByEnd, stableSort_eq, decide_eq_true_eq] using sorted

/-- A walk that has used up the queue has divided it into chains, one for each event that is closed in the end. -/
theorem flushed_chains {t : Pass.Terms} {queue : List Cluster} {pass : Pass} {closed : List (List Cluster)}
    {group : List Cluster} (chained : Pass.Chained t maxDelta.toNat queue pass closed group)
    (tracked : ∀ c ∈ queue, c.Tracked m.planes) (nothing : pass.queue = []) :
    ∃ groups, Chains maxDelta.toNat groups ∧ groups.flatten = queue ∧
      ∀ {shape : Event → List Cluster → Prop}, List.Forall₂ shape pass.closed.toList closed → shape pass.event group →
        List.Forall₂ shape (pass.events true) groups := by
  have whole := chained.whole
  rw [nothing, List.append_nil] at whole
  by_cases none : group = []
  · have empty : pass.event.isEmpty = true := by
      rw [Event.isEmpty_iff]
      by_contra filled
      exact (chained.filled_iff tracked).mp filled none
    rw [none, List.append_nil] at whole
    exact ⟨closed, chained.chains, whole, fun shaped _ => by simpa [Pass.events, empty] using shaped⟩
  · have filled : pass.event.isEmpty = false := by
      rw [← Bool.not_eq_true, Event.isEmpty_iff]
      exact (chained.filled_iff tracked).mpr none
    refine ⟨closed ++ [group], ?_, by rwa [List.flatten_append, List.flatten_singleton], fun shaped last => ?_⟩
    · exact chained.chains.concat none chained.linked fun earlier member =>
        (chained.apart earlier member).mono (List.subset_append_left group pass.queue)
    · simpa [Pass.events, filled] using List.rel_append shaped (.cons last .nil)

/-- Where everything is matched, the queue is used up in the end. -/
theorem flushed_queue {maxSpan : Nat} {pass : Pass}
    (walked : Pass.Walked (m.terms true maxSpan) m.planes (sortByEnd m.unmatched) pass) : pass.queue = [] := by
  rcases Pass.next?_eq_none walked.ended with ⟨none, _⟩ | ⟨front, _, _, late⟩
  · exact none
  · simp at late

/-- A matcher that matches everything divides its clusters into chains and makes an event of each. -/
theorem Matched.flush_chains (matched : Matched m true q) (rule : m.rule = (MatchPolicy.endProximity maxDelta).rule)
    (distinct : m.planes.Nodup) (tracked : ∀ c ∈ m.unmatched, c.Tracked m.planes) :
    ∃ events groups, q.events = m.events ++ events ∧ Chains maxDelta.toNat groups ∧
      groups.flatten.Perm m.unmatched ∧ List.Forall₂ Event.Made events groups := by
  cases matched with
  | skipped idle =>
    have none : m.unmatched = [] := by simpa using idle
    exact ⟨[], [], by simp, .nil, by simp [none], .nil⟩
  | @walked maxSpan pass some enough spans run walked =>
    have inTracked := sortByEnd_tracked tracked
    obtain ⟨closed, group, chained⟩ :=
      Pass.walk_chained (t := m.terms true maxSpan) rule distinct inTracked (sortByEnd_sorted _) run
    obtain ⟨groups, chains, whole, shaped⟩ := flushed_chains chained inTracked (flushed_queue walked)
    exact ⟨_, groups, rfl, chains, whole ▸ sortByEnd_perm _, shaped chained.events chained.event⟩

section Final

variable {maxSpan : Nat} {pass : Pass} {closed : List (List Cluster)} {group : List Cluster}

/-- Where a walk for what is final has stopped, nothing that waits is final. -/
theorem waiting_not_ready
    (chained : Pass.Chained (m.terms false maxSpan) maxDelta.toNat (sortByEnd m.unmatched) pass closed group)
    (walked : Pass.Walked (m.terms false maxSpan) m.planes (sortByEnd m.unmatched) pass) :
    ∀ c ∈ pass.queue, m.isReady c = false := by
  rcases Pass.next?_eq_none walked.ended with ⟨none, _⟩ | ⟨front, rest, atFront, late⟩
  · simp [none]
  · rw [ready_terms, Bool.false_or] at late
    intro c member
    rw [atFront] at member
    rcases List.mem_cons.mp member with rfl | later
    · exact late
    · rw [← Bool.not_eq_true] at late ⊢
      have after := UInt64.le_iff_toNat_le.mp (chained.behind (sortByEnd_sorted _) atFront c later)
      exact fun ready => late (isReady_of_le ready after)

/-- What a walk for what is final puts back of the event in progress ends when the clusters of the event do. -/
theorem remade_ends
    (chained : Pass.Chained (m.terms false maxSpan) maxDelta.toNat (sortByEnd m.unmatched) pass closed group)
    (walked : Pass.Walked (m.terms false maxSpan) m.planes (sortByEnd m.unmatched) pass)
    (tracked : ∀ c ∈ sortByEnd m.unmatched, c.Tracked m.planes) :
    closed = [] ∧ group = [] ∧ pass.event.drain = [] ∨
      ∃ time, EndsAt group time ∧ EndsAt pass.event.drain time := by
  have good := walked.sound.event
  have remade : pass.event.Made pass.event.drain := by
    rw [Event.Made, Event.hits_eq_drain]
  by_cases none : group = []
  · left
    have empty : pass.event.hits = [] := by
      by_contra filled
      exact (chained.filled_iff tracked).mp filled none
    have first : closed = [] := by
      by_contra some
      rcases chained.begun some with filled | ⟨front, rest, atFront, ready⟩
      · exact filled none
      · rw [ready_terms, Bool.false_or, waiting_not_ready chained walked front (by simp [atFront])] at ready
        cases ready
    refine ⟨first, none, List.eq_nil_iff_forall_not_mem.mpr fun c member => ?_⟩
    rw [Event.hits_eq_drain] at empty
    exact (good.drain_tracked c member).hits_ne_nil (List.flatMap_eq_nil_iff.mp empty c member)
  · right
    have last := (chained.endsAt walked.sound tracked (sortByEnd_sorted _) none).1
    have some : pass.event.drain ≠ [] := by
      intro nothing
      have filled := (chained.filled_iff tracked).mpr none
      rw [Event.hits_eq_drain, nothing] at filled
      exact filled rfl
    exact ⟨_, last, remade.endsAt good good.drain_tracked some⟩

end Final

/-- A matcher that is asked for what is final has too few clusters, or does what a poll does. -/
theorem Matched.poll_chains (matched : Matched m false q) (rule : m.rule = (MatchPolicy.endProximity maxDelta).rule)
    (distinct : m.planes.Nodup) (tracked : ∀ c ∈ m.unmatched, c.Tracked m.planes) :
    q = m ∧ m.unmatched.length < m.minimumQueued ∨ m.minimumQueued ≤ m.unmatched.length ∧
      ∃ events closed group remade waiting, Polled maxDelta.toNat m q events closed group remade waiting := by
  cases matched with
  | skipped idle =>
    by_cases few : m.unmatched.length < m.minimumQueued
    · exact Or.inl ⟨rfl, few⟩
    · have none : m.unmatched = [] := idle.resolve_right fun few' => few few'.2
      right
      exact ⟨Nat.le_of_not_lt few, [], [], [], [], [], by simp, .nil, by simp [none], by simp [none], .nil,
        by simp [Linked], by simp, by simp, by simp, Or.inl ⟨rfl, rfl, rfl⟩, by simp, by simp⟩
  | @walked maxSpan pass some enough spans run walked =>
    right
    have inTracked := sortByEnd_tracked tracked
    obtain ⟨closed, group, chained⟩ :=
      Pass.walk_chained (t := m.terms false maxSpan) rule distinct inTracked (sortByEnd_sorted _) run
    have late := waiting_not_ready chained walked
    have ends := remade_ends chained walked inTracked
    refine ⟨enough rfl, pass.events false, closed, group, pass.event.drain, pass.queue, ?_⟩
    constructor
    · rfl
    · simpa [Pass.events] using chained.events
    · rw [chained.whole]
      exact (sortByEnd_perm m.unmatched).symm
    · have waiting : pass.remaining false = pass.queue ++ pass.event.drain := by
        simp [Pass.remaining, chained.deferred]
      rw [waiting]
      exact List.perm_append_comm
    · exact chained.chains
    · exact chained.linked
    · exact chained.apart
    · have made := chained.event
      rw [Event.Made, Event.hits_eq_drain] at made
      exact made
    · refine chained.event.drain_ends walked.sound.event fun c member => inTracked c ?_
      rw [← chained.whole]
      exact List.mem_append_right _ (List.mem_append_left _ member)
    · exact ends
    · intro c member
      rcases ends with ⟨_, _, none⟩ | ⟨time, ⟨⟨d, atGroup, value⟩, _⟩, last⟩
      · rw [none] at member
        cases member
      · have ready := chained.ready d (List.mem_append_right _ atGroup)
        rw [ready_terms, Bool.false_or] at ready
        exact isReady_of_le ready ((last.2 c member).trans value.ge)
    · exact late

/-- What is put back is what the matcher holds that is final. -/
theorem Polled.filter_ready {events : List Event} {closed : List (List Cluster)} {group remade waiting : List Cluster}
    (polled : Polled maxDelta.toNat m q events closed group remade waiting) :
    (q.unmatched.filter m.isReady).Perm remade := by
  have same := polled.after.filter m.isReady
  have all : remade.filter m.isReady = remade := List.filter_eq_self.mpr polled.ready
  have none : waiting.filter m.isReady = [] :=
    List.filter_eq_nil_iff.mpr fun c member => by simp [polled.late c member]
  rwa [List.filter_append, all, none, List.append_nil] at same

theorem Polled.keepsTogether_iff {events : List Event} {closed : List (List Cluster)}
    {group remade waiting : List Cluster} (polled : Polled maxDelta.toNat m q events closed group remade waiting)
    (poll : m.poll = .ok q) (enough : m.minimumQueued ≤ m.unmatched.length) :
    m.KeepsTogether maxDelta.toNat ↔ Linked maxDelta.toNat remade := by
  constructor
  · intro keeps
    exact (keeps enough q poll).perm polled.filter_ready
  · intro linked _ other again
    rw [poll] at again
    cases again
    exact linked.perm polled.filter_ready.symm

end EventFormation.Matcher
