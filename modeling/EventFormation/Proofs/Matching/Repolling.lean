import EventFormation.Proofs.Matching.Candidates
import EventFormation.Proofs.Matching.Regathering

namespace EventFormation

/-- If what is kept comes first, dropping the rest divides the list. -/
theorem filter_append_filter_not {α : Type} {keep : α → Bool} {items : List α}
    (falling : items.Pairwise fun a b => keep b = true → keep a = true) :
    items.filter keep ++ items.filter (!keep ·) = items := by
  induction items with
  | nil => rfl
  | cons item rest ih =>
    obtain ⟨first, falling⟩ := List.pairwise_cons.mp falling
    by_cases kept : keep item = true
    · simp [kept, ih falling]
    · have none : rest.filter keep = [] :=
        List.filter_eq_nil_iff.mpr fun other member keeps => kept (first other member keeps)
      have all : rest.filter (!keep ·) = rest := by
        simpa [none] using ih falling
      simp [kept, none, all]

theorem Pass.Reaches.answered {t : Terms} {p q r : Pass} (reach : Reaches t p q) (toEnd : Reaches t p r)
    (ended : next? t r = .ok none) : ∃ move, next? t q = .ok move := by
  rcases Relation.ReflTransGen.cases_head (reach.before_end toEnd ended) with rfl | ⟨_, ⟨move, next, _⟩, _⟩
  · exact ⟨none, ended⟩
  · exact ⟨some move, next⟩

namespace Matcher

variable {m q : Matcher} {maxSpan : Nat} {p : Pass} {policy : MatchPolicy} {events : List Event}

theorem Settled.isReady (settled : m.Settled q events) : q.isReady = m.isReady := by
  funext c
  rw [Matcher.isReady, Matcher.isReady, horizon, horizon, settled.progress, settled.latency]

theorem Settled.planes (settled : m.Settled q events) : q.planes = m.planes := by
  rw [Matcher.planes, Matcher.planes, settled.progress]

theorem Settled.tracked (settled : m.Settled q events) : ∀ c ∈ q.unmatched, c.Tracked q.planes := by
  rw [settled.planes]
  exact settled.queued

/-- The clock can count what is final, since all planes have moved on from there. -/
theorem clockLimited_of_ready {hits : List Hit}
    (ready : ∀ hit ∈ hits, ∃ c : Cluster, m.isReady c = true ∧ c.Faithful ∧ hit ∈ c.hits) : ClockLimited hits := by
  intro first _ last atLast
  obtain ⟨c, final, faithful, inside⟩ := ready last atLast
  have ends := faithful.time_le_timeEnd inside
  have top := m.horizon.toNat_lt
  rw [isReady_iff] at final
  rw [UInt64.le_iff_toNat_le] at ends
  simp only [ticksSince, lastTick]
  omega

/-- A matcher that could be polled has only clusters that the clock can count, unless it was left as it is. -/
theorem Matched.clockLimited (matched : Matched m false q) (distinct : m.planes.Nodup)
    (tracked : ∀ c ∈ m.unmatched, c.Tracked m.planes) : q = m ∨ ∀ c ∈ q.unmatched, ClockLimited c.hits := by
  cases matched with
  | skipped idle => exact Or.inl rfl
  | @walked maxSpan pass some enough spans run walked =>
    right
    have inTracked := sortByEnd_tracked tracked
    have waiting : ∀ c ∈ pass.waiting, ClockLimited c.hits := by
      intro c member
      obtain ⟨_, fewer, _⟩ := (Pass.reaches_of_walkWithin run).sound (.start distinct inTracked)
      have inQueue : c ∈ sortByEnd m.unmatched := by simpa [Pass.waiting] using fewer member
      obtain ⟨span, measured, _⟩ := le_longestSpan spans inQueue
      by_contra long
      rw [(inTracked c inQueue).faithful.timeSpan_fault long] at measured
      cases measured
    intro c member
    simp only [Pass.remaining, Bool.false_eq_true, if_false, List.mem_append] at member
    rcases member with (inQueue | inEvent) | deferred
    · exact waiting c (List.mem_append_left _ inQueue)
    · have final := isReady_of_drained walked (Pass.walk_ready distinct inTracked run) List.mem_cons_self inEvent
      have faithful := (walked.sound.event.drain_tracked c inEvent).faithful
      exact clockLimited_of_ready (m := m) fun hit inside => ⟨c, final, faithful, inside⟩
    · exact waiting c (List.mem_append_right _ deferred)

theorem Visits.ready (visit : m.Visits false maxSpan p) (distinct : m.planes.Nodup)
    (tracked : ∀ c ∈ m.unmatched, c.Tracked m.planes) : Pass.Ready (m.terms false maxSpan) m.planes p := by
  refine visit.reach.preserves (.start distinct (sortByEnd_tracked tracked)) (.start _ _ _) ?_
  exact fun p move sound ready next => (next.step sound).keeps_ready sound ready

/-- Once a poll has succeeded, the next one does. -/
theorem Matched.poll_again (matched : Matched m false q) (poll : m.poll = .ok q) (rule : m.rule = policy.rule)
    (distinct : m.planes.Nodup) (tracked : ∀ c ∈ m.unmatched, c.Tracked m.planes) : ∃ again, q.poll = .ok again := by
  rcases matched.clockLimited distinct tracked with rfl | limited
  · exact ⟨q, poll⟩
  obtain ⟨events, settled⟩ := matched.settled tracked
  have distinct' : q.planes.Nodup := by rwa [settled.planes]
  cases again : q.poll with
  | ok result => exact ⟨result, rfl⟩
  | error fault =>
    exfalso
    obtain ⟨_, some, enough, ⟨c, member, long⟩ | ⟨maxSpan, p, spans, reach, _, long, _⟩⟩ :=
      (matchQueue_eq_error_iff (settled.rule.trans rule) distinct' settled.tracked).mp again
    · exact long (limited c member)
    · have visit : q.Visits false maxSpan p := ⟨some, enough, spans, reach⟩
      refine long (clockLimited_of_ready (m := q) fun hit inside => ?_)
      obtain ⟨c, final, own, atHit⟩ := visit.ready distinct' settled.tracked p.event List.mem_cons_self hit inside
      rw [ready_terms, Bool.false_or] at final
      exact ⟨c, final, own.faithful, atHit⟩

/-- A poll would close no event, and would only take clusters to open planes. -/
def Steady (m : Matcher) : Prop :=
  ∀ maxSpan p move, m.Visits false maxSpan p → p.next? (m.terms false maxSpan) = .ok (some move) →
    ∃ c, p.joining move = some c ∧ p.planeOpen c = true

theorem steady_of_idle (idle : m.unmatched = [] ∨ m.unmatched.length < m.minimumQueued) : m.Steady := by
  intro maxSpan p move visit
  rcases idle with none | few
  · exact absurd none visit.filled
  · exact absurd (visit.enough rfl) (Nat.not_le.mpr few)

theorem steady_iff_opens (some : m.unmatched ≠ []) (enough : m.minimumQueued ≤ m.unmatched.length)
    (spans : longestSpan (sortByEnd m.unmatched) = .ok maxSpan) :
    m.Steady ↔ Pass.Opens (m.terms false maxSpan)
      { queue := sortByEnd m.unmatched, event := Event.ofPlanes m.planes } := by
  constructor
  · exact fun steady p move reach => steady maxSpan p move ⟨some, fun _ => enough, spans, reach⟩
  · rintro opens _ p move ⟨_, _, spans', reach⟩
    rw [spans] at spans'
    cases spans'
    exact opens p move reach

/-- A poll closes no event and leaves all clusters as they are just if it only takes them to open planes. -/
theorem Matched.unchanged_iff (matched : Matched m false q) (distinct : m.planes.Nodup)
    (tracked : ∀ c ∈ m.unmatched, c.Tracked m.planes) :
    q.events = m.events ∧ (q.unmatched.map (·.hits)).Perm (m.unmatched.map (·.hits)) ↔ m.Steady := by
  cases matched with
  | skipped idle => exact iff_of_true ⟨rfl, .refl _⟩ (steady_of_idle (idle.imp_right And.right))
  | @walked maxSpan pass some enough spans run walked =>
    have start := Pass.Sound.start distinct (sortByEnd_tracked tracked)
    have toEnd := Pass.reaches_of_walkWithin run
    have divided := pass.held_perm false
    rw [steady_iff_opens some (enough rfl) spans]
    constructor
    · rintro ⟨events, kept⟩
      have none : pass.closed.toList = [] := by simpa [Pass.events] using events
      have count := kept.length_eq
      rw [List.length_map, List.length_map] at count
      refine Pass.opens_of_kept start toEnd walked.ended ?_ none
      rw [Pass.held_start, (sortByEnd_perm m.unmatched).length_eq, divided.length_eq, ← count, List.length_append]
      exact Nat.le_add_right _ _
    · intro opens
      obtain ⟨held, closed⟩ := opens.keeps toEnd start
      have events : pass.events false = [] := by simp [Pass.events, closed]
      rw [Pass.held_start] at held
      rw [events, List.flatMap_nil, List.append_nil] at divided
      refine ⟨by rw [events, List.append_nil], List.Perm.map _ ?_⟩
      exact divided.symm.trans (held.trans (sortByEnd_perm m.unmatched))

/-- If what is final is on different planes, a poll changes nothing just if all of that still goes together. -/
theorem Matched.steady_iff_gathers (matched : Matched m false q) (distinct : m.planes.Nodup)
    (tracked : ∀ c ∈ m.unmatched, c.Tracked m.planes) (enough : m.minimumQueued ≤ m.unmatched.length)
    (apart : (((sortByEnd m.unmatched).filter m.isReady).map (·.plane)).Nodup) :
    m.Steady ↔ m.rule.Gathers (Event.ofPlanes m.planes) ((sortByEnd m.unmatched).filter m.isReady) := by
  cases matched with
  | skipped idle =>
    have none : m.unmatched = [] := idle.resolve_right fun few => Nat.not_le.mpr few.2 enough
    have queue : sortByEnd m.unmatched = [] := by
      rw [none]
      rfl
    rw [queue]
    exact iff_of_true (steady_of_idle (Or.inl none)) trivial
  | @walked maxSpan pass some _ spans run walked =>
    have divided : sortByEnd m.unmatched =
        (sortByEnd m.unmatched).filter m.isReady ++ (sortByEnd m.unmatched).filter (!m.isReady ·) :=
      (filter_append_filter_not ((sortByEnd_sorted m.unmatched).imp fun {a b} ordered ready =>
        isReady_of_le ready (UInt64.le_iff_toNat_le.mp ordered))).symm
    rw [steady_iff_opens some enough spans]
    refine Pass.opens_iff_gathers (.start distinct (sortByEnd_tracked tracked)) rfl divided
      (fun c member => ?_) (fun c member => ?_) ?_
      fun p reach => reach.answered (Pass.reaches_of_walkWithin run) walked.ended
    · simpa using (List.mem_filter.mp member).2
    · simpa using (List.mem_filter.mp member).2
    · rwa [Event.drain_ofPlanes]

/-- Matching by ends puts back one cluster for each plane of the event in progress. -/
theorem Matched.planes_nodup (matched : Matched m false q) {maxDelta : UInt64}
    (rule : m.rule = (MatchPolicy.endProximity maxDelta).rule) (distinct : m.planes.Nodup)
    (tracked : ∀ c ∈ m.unmatched, c.Tracked m.planes) (enough : q.minimumQueued ≤ q.unmatched.length) :
    (((sortByEnd q.unmatched).filter q.isReady).map (·.plane)).Nodup := by
  rw [(((sortByEnd_perm q.unmatched).filter q.isReady).map (·.plane)).nodup_iff]
  obtain ⟨events, settled⟩ := matched.settled tracked
  rw [settled.isReady]
  cases matched with
  | skipped idle =>
    have none : m.unmatched = [] := idle.resolve_right fun few => Nat.not_le.mpr few.2 enough
    simp [none]
  | @walked maxSpan pass some _ spans run walked =>
    have inTracked := sortByEnd_tracked tracked
    obtain ⟨closed, group, chained⟩ :=
      Pass.walk_chained (t := m.terms false maxSpan) rule distinct inTracked (sortByEnd_sorted _) run
    have late := waiting_not_ready chained walked
    have final := fun c => isReady_of_drained walked (Pass.walk_ready distinct inTracked run) (List.mem_cons_self) (c := c)
    have waiting : pass.queue.filter m.isReady = [] :=
      List.filter_eq_nil_iff.mpr fun c member => by simp [late c member]
    have all : pass.event.drain.filter m.isReady = pass.event.drain := List.filter_eq_self.mpr final
    simp only [Pass.remaining, chained.deferred, Bool.false_eq_true, if_false, List.append_nil, List.filter_append,
      waiting, all, List.nil_append]
    exact walked.sound.event.nodup_plane_drain

end Matcher

namespace Ledger

open Matcher (Command)

/-- After a poll, another one succeeds. It changes nothing just if it only takes clusters to open planes, which for
clusters of different planes is to say that all parts of the event in progress still go together. -/
theorem poll_again_iff (policy : MatchPolicy) (config : MatchConfig) (commands : List Command)
    (built : ∀ c ∈ commands.flatMap (·.clusters), c.Built) {start m : Matcher} {l : Ledger}
    (new : Matcher.ofRule policy.rule config = .ok start) (run : performAll { matcher := start } commands = .ok l)
    (poll : l.matcher.poll = .ok m) :
    let parts := (Matcher.sortByEnd m.unmatched).filter m.isReady
    ∃ again, m.poll = .ok again ∧
      (again.events = m.events ∧ (again.unmatched.map (·.hits)).Perm (m.unmatched.map (·.hits)) ↔ m.Steady) ∧
      (m.unmatched.length < m.minimumQueued → m.Steady) ∧
      (m.minimumQueued ≤ m.unmatched.length →
        ((parts.map (·.plane)).Nodup → (m.Steady ↔ policy.rule.Gathers (Event.ofPlanes config.planes) parts)) ∧
        ∀ maxDelta, policy = .endProximity maxDelta → (parts.map (·.plane)).Nodup) := by
  intro parts
  obtain ⟨valid, fresh⟩ := Timed.start new
  have distinct := (MatchConfig.planesChecked_of_check valid).distinct
  have faithful : ∀ c ∈ commands.flatMap (·.clusters), c.Faithful := fun c member => (built c member).faithful
  have timed := fresh.performAll distinct faithful run
  have rule : l.matcher.rule = policy.rule :=
    (fresh.performAll_rule distinct faithful run).trans (Matcher.ofRule_eq_ok new).1
  have apart := timed.nodup_planes distinct
  have matched := timed.matchQueue distinct poll
  obtain ⟨events, settled⟩ := matched.settled timed.tracked
  have planes := settled.planes.trans timed.balanced.spanning
  have apart' : m.planes.Nodup := by rwa [planes]
  have tracked' := settled.tracked
  obtain ⟨again, poll'⟩ := matched.poll_again poll rule apart timed.tracked
  have matched' := Matcher.matchQueue_matched apart' tracked' poll'
  refine ⟨again, poll', matched'.unchanged_iff apart' tracked', fun few => Matcher.steady_of_idle (Or.inr few), ?_⟩
  intro enough
  constructor
  · intro different
    rw [← rule, ← settled.rule, ← planes]
    exact matched'.steady_iff_gathers apart' tracked' enough different
  · rintro maxDelta rfl
    exact matched.planes_nodup rule apart timed.tracked enough

/-- Nothing after the first two clusters shows that their event is complete, so it is put back, and put back again. -/
theorem poll_again_iff_leftover :
    let policy := MatchPolicy.endProximity 200
    let config : MatchConfig := { latency := 600 }
    let commands := [Command.insert 0 [.ofHits [⟨0, 0, 4, 1⟩, ⟨200, 0, 4, 1⟩], .ofHits [⟨1000, 0, 4, 1⟩]],
      .insert 1 [.ofHits [⟨0, 1, 4, 1⟩, ⟨200, 1, 4, 1⟩], .ofHits [⟨1000, 1, 4, 1⟩]]]
    ∃ start l m again, Matcher.ofRule policy.rule config = .ok start ∧
      performAll { matcher := start } commands = .ok l ∧ l.matcher.poll = .ok m ∧ m.poll = .ok again ∧
      again.events = m.events ∧ (again.unmatched.map (·.hits)).Perm (m.unmatched.map (·.hits)) ∧
      policy.rule.Gathers (Event.ofPlanes [0, 1]) ((Matcher.sortByEnd m.unmatched).filter m.isReady) := by
  intro policy config commands
  have runs : ((Matcher.ofRule policy.rule config).toOption.bind fun start =>
      (performAll { matcher := start } commands).toOption.bind fun l =>
        l.matcher.poll.toOption.bind fun m => m.poll.toOption.map fun again =>
          (m.events.isEmpty, again.events.isEmpty, decide (m.minimumQueued ≤ m.unmatched.length),
            decide ((again.unmatched.map (·.hits)).Perm (m.unmatched.map (·.hits))))) =
      some (true, true, true, true) := by decide +kernel
  obtain ⟨start, new, runs⟩ := Option.bind_eq_some_iff.mp runs
  obtain ⟨l, run, runs⟩ := Option.bind_eq_some_iff.mp runs
  obtain ⟨m, poll, runs⟩ := Option.bind_eq_some_iff.mp runs
  obtain ⟨again, poll', values⟩ := Option.map_eq_some_iff.mp runs
  simp only [Prod.mk.injEq, List.isEmpty_iff, decide_eq_true_eq] at values
  obtain ⟨before, after, enough, kept⟩ := values
  have new := eq_ok_of_toOption new
  have run := eq_ok_of_toOption run
  have poll := eq_ok_of_toOption poll
  have poll' := eq_ok_of_toOption poll'
  obtain ⟨again', other, unchanged, _, whole⟩ := poll_again_iff policy config commands
    (by simp [commands, Command.clusters, Cluster.Built.ofHits]) new run poll
  rw [poll'] at other
  cases other
  have same : again.events = m.events := after.trans before.symm
  obtain ⟨gathers, different⟩ := whole enough
  exact ⟨start, l, m, again, new, run, poll, poll', same, kept,
    (gathers (different 200 rfl)).mp (unchanged.mp ⟨same, kept⟩)⟩

/-- Three clusters of one plane and one of the other follow each other closely. A poll puts them back as one cluster
for each plane, and these are too far apart for the next poll, which closes an event. -/
theorem poll_again_parted :
    let config : MatchConfig := { latency := 0, minimumQueued := 3 }
    let commands := [Command.insert 0 [.ofHits [⟨0, 0, 1, 1⟩], .ofHits [⟨5, 0, 1, 1⟩], .ofHits [⟨10, 0, 1, 1⟩],
      .ofHits [⟨30, 0, 1, 1⟩]], .insert 1 [.ofHits [⟨0, 1, 1, 1⟩], .ofHits [⟨30, 1, 1, 1⟩]]]
    ∃ start l m again, Matcher.ofRule (MatchPolicy.endProximity 5).rule config = .ok start ∧
      performAll { matcher := start } commands = .ok l ∧ l.matcher.poll = .ok m ∧ m.poll = .ok again ∧
      m.events.map (·.hits) = [] ∧ again.events.map (·.hits) = [[⟨0, 1, 1, 1⟩]] ∧
      m.unmatched.map (·.hits) = [[⟨30, 0, 1, 1⟩], [⟨30, 1, 1, 1⟩],
        [⟨0, 0, 1, 1⟩, ⟨5, 0, 1, 1⟩, ⟨10, 0, 1, 1⟩], [⟨0, 1, 1, 1⟩]] := by
  intro config commands
  have runs : ((Matcher.ofRule (MatchPolicy.endProximity 5).rule config).toOption.bind fun start =>
      (performAll { matcher := start } commands).toOption.bind fun l =>
        l.matcher.poll.toOption.bind fun m => m.poll.toOption.map fun again =>
          (m.events.map (·.hits), again.events.map (·.hits), m.unmatched.map (·.hits))) =
      some ([], [[⟨0, 1, 1, 1⟩]], [[⟨30, 0, 1, 1⟩], [⟨30, 1, 1, 1⟩], [⟨0, 0, 1, 1⟩, ⟨5, 0, 1, 1⟩, ⟨10, 0, 1, 1⟩],
        [⟨0, 1, 1, 1⟩]]) := by decide +kernel
  obtain ⟨start, new, runs⟩ := Option.bind_eq_some_iff.mp runs
  obtain ⟨l, run, runs⟩ := Option.bind_eq_some_iff.mp runs
  obtain ⟨m, poll, runs⟩ := Option.bind_eq_some_iff.mp runs
  obtain ⟨again, poll', values⟩ := Option.map_eq_some_iff.mp runs
  simp only [Prod.mk.injEq] at values
  exact ⟨start, l, m, again, eq_ok_of_toOption new, eq_ok_of_toOption run, eq_ok_of_toOption poll,
    eq_ok_of_toOption poll', values⟩

end Ledger

end EventFormation
