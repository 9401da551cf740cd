import EventFormation.Proofs.Matching.Candidates
import EventFormation.Proofs.Matching.Joining

namespace EventFormation

namespace Event

theorem drain_ne_nil {e : Event} (some : e.hits ≠ []) : e.drain ≠ [] := by
  intro none
  exact some (by rw [hits_eq_drain, none, List.flatMap_nil])

theorem length_drain_le (e : Event) : e.drain.length ≤ e.planes.length := by
  rw [drain, planes, List.length_map, List.length_map]
  exact List.length_filter_le _ e.slots

theorem Joined.length_drain_le {e joined : Event} {c : Cluster} (join : e.Joined c joined) (some : c.hits ≠ []) :
    e.drain.length ≤ joined.drain.length := by
  obtain ⟨before, plane, held, after, _, _, parts, wholes⟩ := join.drains some
  have slot : (Event.drain ⟨[(plane, held)]⟩).length ≤ 1 := Event.length_drain_le _
  simp only [parts, wholes, List.length_append, List.length_singleton]
  omega

end Event

namespace Pass

variable {t : Terms} {planes : List UInt8} {queue : List Cluster} {p q : Pass} {move : Move}

/-- A deferred cluster was passed over for one that has opened a plane of the event, and the first cluster of the
event was there before. -/
def Deferring (p : Pass) : Prop := p.deferred.toList = [] ∨ p.deferred.toList.length < p.event.drain.length

theorem Next.deferring (next : Next t p move) (sound : p.Sound planes) (deferring : p.Deferring) :
    (p.apply move).Deferring := by
  have front {front : Cluster} {rest : List Cluster} (queue : p.queue = front :: rest) : p.join.Deferring := by
    obtain ⟨joined, join, result⟩ := join_eq sound queue
    have more := join.length_drain_le (sound.queued front (by simp [queue])).hits_ne_nil
    rw [result]
    exact deferring.imp_right fun fewer => Nat.lt_of_lt_of_le fewer more
  cases next with
  | finish => exact .inl rfl
  | part => exact .inl rfl
  | seed queue => exact front queue
  | join queue => exact front queue
  | @prefer skipped rest _ behind queue _ filled _ opened found =>
    obtain ⟨closer, atPlace, _, alike, _⟩ := closer?_eq_some found
    obtain ⟨before, after, joined, split, join, result⟩ := prefer_eq sound queue atPlace
    obtain ⟨plane, on, none⟩ := planeOpen_iff.mp opened
    have tracked := sound.queued closer (by simp [queue, split])
    have one : joined.drain.length = p.event.drain.length + 1 := by
      refine (join.drain_perm sound.event tracked.hits_ne_nil fun other own => ?_).length_eq.trans List.length_append
      rw [alike, on] at own
      cases own
      exact none
    have some := List.length_pos_of_ne_nil (Event.drain_ne_nil filled)
    right
    rw [apply, result]
    simp only [Series.toList_push, List.length_append, List.length_singleton, one]
    rcases deferring with empty | fewer
    · rw [empty, List.length_nil]
      omega
    · omega

theorem Deferring.length_le (deferring : p.Deferring) (sound : p.Sound planes) :
    (p.event.drain ++ p.deferred.toList).length ≤ 2 * planes.length - 1 := by
  have slots := p.event.length_drain_le
  rw [sound.spanning] at slots
  rw [List.length_append]
  rcases deferring with none | fewer
  · cases opened : p.event.drain with
    | nil => simp [none]
    | cons first rest =>
      rw [opened] at slots
      simp only [none, List.length_cons, List.length_nil] at slots ⊢
      omega
  · omega

/-- The walk as it would be without the clusters that are not ready. -/
def amongReady (t : Terms) (p : Pass) : Pass := { p with queue := p.queue.filter t.ready }

theorem Sound.amongReady (sound : p.Sound planes) (t : Terms) : (p.amongReady t).Sound planes :=
  { sound with queued := fun c member => sound.queued c (List.mem_filter.mp member).1 }

/-- No move depends on a cluster that is not ready. -/
theorem Step.amongReady (step : Step t p q) (ready : ∀ c ∈ p.deferred.toList, t.ready c = true) :
    Step t (p.amongReady t) (q.amongReady t) := by
  cases step with
  | close filled =>
    have first : p.deferred.toList.filter t.ready = p.deferred.toList := List.filter_eq_self.mpr ready
    have same : p.close.amongReady t = (p.amongReady t).close := by
      simp only [Pass.amongReady, Pass.close, List.filter_append, first]
    rw [same]
    exact .close filled
  | @join front rest joined inFront final join =>
    have queue : (p.amongReady t).queue = front :: rest.filter t.ready := by
      rw [Pass.amongReady, inFront, List.filter_cons_of_pos final]
    exact .join queue final join
  | @prefer front before closer after joined inFront final near filled join =>
    have queue : (p.amongReady t).queue = front :: (before.filter t.ready ++ closer :: after.filter t.ready) := by
      rw [Pass.amongReady, inFront, List.filter_cons_of_pos final, List.filter_append, List.filter_cons_of_pos near]
    have moved : Step t (p.amongReady t) _ := .prefer queue final near filled join
    rw [← List.filter_append] at moved
    exact moved

/-- What is ready is always in the event, deferred or in a closed event, unless it is still queued. -/
theorem Reaches.gathers_ready (reach : Reaches t { queue, event := Event.ofPlanes planes } p) (distinct : planes.Nodup)
    (tracked : ∀ c ∈ queue, c.Tracked planes) :
    Waiting t queue p ∧ Gathered (queue.filter t.ready) (p.amongReady t).held := by
  apply reach.preserves (.start distinct tracked)
  · refine ⟨.start t queue planes, ?_⟩
    rw [amongReady, held_start]
    exact .refl _
  · rintro p move sound ⟨waiting, gathered⟩ next
    have step := next.step sound
    exact ⟨step.keeps_waiting waiting,
      gathered.trans ((step.amongReady waiting.deferred).gathered (sound.amongReady t))⟩

end Pass

namespace Matcher

variable {m q : Matcher}

/-- The queue is in order of ends, so behind a front that is not ready nothing is. -/
theorem Visits.none_ready {flushing : Bool} {maxSpan : Nat} {p : Pass} (visit : m.Visits flushing maxSpan p)
    (distinct : m.planes.Nodup) (tracked : ∀ c ∈ m.unmatched, c.Tracked m.planes)
    (ended : Pass.next? (m.terms flushing maxSpan) p = .ok none) :
    p.queue.filter (m.terms flushing maxSpan).ready = [] := by
  rcases Pass.next?_eq_none ended with ⟨empty, _⟩ | ⟨front, rest, queue, late⟩
  · rw [empty, List.filter_nil]
  · have sorted := (List.pairwise_append.mp (visit.ordered distinct tracked)).2.1
    rw [queue, List.pairwise_cons] at sorted
    rw [queue, List.filter_eq_nil_iff]
    intro c member ready
    have first : front.timeEnd ≤ c.timeEnd := by
      rcases List.mem_cons.mp member with rfl | behind
      · exact UInt64.le_refl _
      · exact sorted.1 c behind
    rw [ready_terms_of_le first ready] at late
    cases late

theorem Matched.ready_few (matched : m.Matched false q) (distinct : m.planes.Nodup)
    (tracked : ∀ c ∈ m.unmatched, c.Tracked m.planes) :
    (q.unmatched.length < m.minimumQueued ∨ (q.unmatched.filter m.isReady).length ≤ 2 * m.planes.length - 1) ∧
      ∃ closed, q.events = m.events ++ closed ∧
        Gathered (m.unmatched.filter m.isReady) (q.unmatched.filter m.isReady ++ closed.flatMap Event.drain) := by
  cases matched with
  | skipped idle =>
    refine ⟨?_, [], by simp, by simpa using .refl _⟩
    rcases idle with none | ⟨_, few⟩
    · exact .inr (by simp [none])
    · exact .inl few
  | @walked maxSpan pass some enough spans run walked =>
    have inTracked := sortByEnd_tracked tracked
    have visit : m.Visits false maxSpan pass := ⟨some, enough, spans, Pass.reaches_of_walkWithin run⟩
    obtain ⟨waiting, gathered⟩ := visit.reach.gathers_ready distinct inTracked
    have isReady : (m.terms false maxSpan).ready = m.isReady := by
      funext c
      rw [ready_terms, Bool.false_or]
    have queued := visit.none_ready distinct tracked walked.ended
    have inEvent : pass.event.drain.filter m.isReady = pass.event.drain :=
      List.filter_eq_self.mpr fun c =>
        isReady_of_drained walked (Pass.walk_ready distinct inTracked run) List.mem_cons_self
    have deferred : pass.deferred.toList.filter m.isReady = pass.deferred.toList :=
      List.filter_eq_self.mpr (isReady ▸ waiting.deferred)
    have deferring : pass.Deferring :=
      visit.reach.preserves (.start distinct inTracked) (.inl rfl) fun p move sound deferring next =>
        next.deferring sound deferring
    rw [isReady] at queued gathered
    have left : (pass.remaining false).filter m.isReady = pass.event.drain ++ pass.deferred.toList := by
      simp only [Pass.remaining, Bool.false_eq_true, if_false, List.filter_append, queued, inEvent, deferred,
        List.nil_append]
    refine ⟨.inr ?_, _, rfl, ?_⟩
    · rw [left]
      exact deferring.length_le walked.sound
    · rw [left]
      refine (gathered.perm_left ((sortByEnd_perm m.unmatched).filter _)).perm_right ?_
      simp only [Pass.amongReady, isReady, queued, Pass.held, Pass.events, Bool.false_and, Bool.false_eq_true, if_false,
        List.nil_append]
      rfl

end Matcher

namespace Ledger

open Matcher (Command)

theorem Performed.minimumQueued {l q : Ledger} {command : Command} (performed : l.Performed command q) :
    q.matcher.minimumQueued = l.matcher.minimumQueued := by
  cases performed with
  | queued queued => exact queued.minimumQueued
  | matched _ matched => cases matched <;> rfl
  | taken => rfl

theorem performAll_minimumQueued {rule : JoinRule} {config : MatchConfig} {commands : List Command} {start : Matcher}
    {l : Ledger} (new : Matcher.ofRule rule config = .ok start)
    (faithful : ∀ c ∈ commands.flatMap (·.clusters), c.Faithful) (run : performAll { matcher := start } commands = .ok l) :
    l.matcher.minimumQueued = config.minimumQueued := by
  obtain ⟨valid, timed⟩ := Timed.start new
  have fresh : start.minimumQueued = config.minimumQueued := by
    obtain ⟨_, _, made⟩ := bind_eq_ok_iff.mp new
    cases made
    rfl
  exact timed.performAll_induction (fun _ next => next.matcher.minimumQueued = config.minimumQueued)
    (MatchConfig.planesChecked_of_check valid).distinct faithful fresh
    (fun _ _ _ _ _ same performed => performed.minimumQueued.trans same) run

/-- A poll leaves all as it is where too few clusters are queued. Otherwise no more final clusters are left than an
event and the clusters deferred for it can be, and all others are in closed events. -/
theorem poll_leaves_few_ready (policy : MatchPolicy) (config : MatchConfig) (commands : List Command)
    (valid : config.check = .ok ()) (built : ∀ c ∈ commands.flatMap (·.clusters), c.Built)
    (limited : ClockLimited ((commands.flatMap (·.clusters)).flatMap Cluster.hits)) :
    ∃ start l m, Matcher.ofRule policy.rule config = .ok start ∧ performAll { matcher := start } commands = .ok l ∧
      l.matcher.poll = .ok m ∧
      let ready c := decide (ticksSince c.timeEnd m.horizon > config.latency.toNat)
      (m.unmatched.length < config.minimumQueued ∨
        (m.unmatched.filter ready).length ≤ 2 * config.planes.length - 1) ∧
      ∃ closed, m.events = l.matcher.events ++ closed ∧
        Gathered (l.matcher.unmatched.filter ready) (m.unmatched.filter ready ++ closed.flatMap Event.drain) := by
  obtain ⟨start, l, new, run, timed, rule⟩ := exists_timed policy valid built limited
  have distinct := (MatchConfig.planesChecked_of_check valid).distinct
  have answers : l.matcher.rule.Answers ((commands.flatMap (·.clusters)).flatMap Cluster.hits) := by
    rw [rule]
    exact policy.answers limited
  obtain ⟨m, events, poll, matched, settled⟩ :=
    timed.balanced.matchQueue distinct answers limited (List.Subset.refl _) false
  have few := matched.ready_few (timed.nodup_planes distinct) timed.tracked
  rw [performAll_minimumQueued new (fun c member => (built c member).faithful) run, timed.balanced.spanning] at few
  have ready : l.matcher.isReady = fun c => decide (ticksSince c.timeEnd m.horizon > config.latency.toNat) := by
    funext c
    rw [Matcher.isReady, timed.latency, Matcher.horizon, Matcher.horizon, settled.progress]
  rw [ready] at few
  exact ⟨start, l, m, new, run, poll, few⟩

/-- A short cluster is passed over for a longer one that meets the event, and then both planes have moved on. -/
theorem poll_leaves_few_ready_deferred :
    let config : MatchConfig := { planes := [0, 1], latency := 100, minimumQueued := 5 }
    let commands := [([0, 10], 0), ([15, 20], 1), ([8, 30], 1), ([9000], 0), ([9000], 1)].map fun (times, plane) =>
      Command.insertCluster (.ofHits (times.map fun time => ⟨time, plane, 4, 1⟩))
    ∃ start l m, Matcher.ofRule (MatchPolicy.gapProximity 5).rule config = .ok start ∧
      performAll { matcher := start } commands = .ok l ∧ l.matcher.poll = .ok m ∧ m.unmatched.length = 5 ∧
      (m.unmatched.filter fun c => decide (ticksSince c.timeEnd m.horizon > 100)).length = 3 ∧
      (m.unmatched.length < 5 ∨
        (m.unmatched.filter fun c => decide (ticksSince c.timeEnd m.horizon > 100)).length ≤ 2 * 2 - 1) := by
  intro config commands
  have values : ((Matcher.ofRule (MatchPolicy.gapProximity 5).rule config).toOption.bind fun start =>
      (performAll { matcher := start } commands).toOption.bind fun l => l.matcher.poll.toOption.map fun m =>
        (m.unmatched.length, (m.unmatched.filter fun c => decide (ticksSince c.timeEnd m.horizon > 100)).length)) =
      some (5, 3) := by decide +kernel
  obtain ⟨start, l, m, new, run, poll, few, _⟩ := poll_leaves_few_ready (.gapProximity 5) config commands rfl
    (by simp [commands, Command.clusters, Cluster.Built.ofHits]) (by decide)
  rw [new, Except.toOption, Option.bind_some, run, Except.toOption, Option.bind_some, poll, Except.toOption,
    Option.map_some, Option.some_inj, Prod.mk.injEq] at values
  exact ⟨start, l, m, new, run, poll, values.1, values.2, few⟩

end Ledger

end EventFormation
