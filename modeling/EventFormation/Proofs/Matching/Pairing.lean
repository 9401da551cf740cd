import EventFormation.Proofs.Matching.Distance
import EventFormation.Proofs.Matching.Joining

namespace EventFormation

/-- The second cluster comes within the distance of the first, and both times are numbers. -/
def ClusterTime.Near (time : ClusterTime) (maxDelta : UInt64) (member c : Cluster) : Prop :=
  (time.of member - time.of c).abs.isNaN = false ∧ (time.of member - time.of c).abs ≤ maxDelta.toFloat

theorem largestWithin_eq_some {limit worst largest : Float} {deltas : List Float}
    (run : largestWithin limit worst deltas = some largest) :
    ∀ delta ∈ deltas, delta.isNaN = false ∧ ¬ delta > limit := by
  induction deltas generalizing worst with
  | nil => simp
  | cons delta rest ih =>
    unfold largestWithin at run
    split at run
    · cases run
    · rename_i within
      simp only [Bool.or_eq_true, decide_eq_true_eq, not_or, Bool.not_eq_true] at within
      intro other member
      rcases List.mem_cons.mp member with rfl | behind
      · exact within
      · exact ih run other behind

/-- A cluster belongs to an event without its plane if it is near to all that the event has. -/
theorem centerProximity_eq_some {maxDelta : UInt64} {time : ClusterTime} {e : Event} {c : Cluster} {distance : Float}
    (run : (MatchPolicy.centerProximity maxDelta time).rule.proximity e c = .ok (some distance)) :
    (∃ plane, c.plane = some plane ∧ e.cluster? plane = none) ∧ ∀ member ∈ e.drain, time.Near maxDelta member c := by
  replace run : MatchPolicy.centerDistance maxDelta time e c = some distance := Except.ok.inj run
  unfold MatchPolicy.centerDistance at run
  split at run
  · cases run
  rename_i plane on
  split at run
  · cases run
  rename_i opened
  refine ⟨⟨plane, on, by simpa using opened⟩, fun member inside => ?_⟩
  obtain ⟨slot, populated, rfl⟩ := List.mem_map.mp inside
  obtain ⟨number, within⟩ := largestWithin_eq_some run _ (List.mem_map_of_mem populated)
  exact ⟨number, float_le_of_not_gt number (isNaN_toFloat maxDelta) within⟩

namespace Event

/-- The clusters of the event can have come one after the other, each near to all before it. -/
def Gradual (time : ClusterTime) (maxDelta : UInt64) (e : Event) : Prop :=
  ∃ order : List Cluster, order.Perm e.drain ∧ order.Pairwise (time.Near maxDelta)

theorem Gradual.of_empty {time : ClusterTime} {maxDelta : UInt64} {e : Event} (empty : e.hits = []) :
    e.Gradual time maxDelta :=
  ⟨[], by rw [drain_eq_nil empty], .nil⟩

theorem Gradual.concat {time : ClusterTime} {maxDelta : UInt64} {e joined : Event} {c : Cluster}
    (gradual : e.Gradual time maxDelta) (drains : joined.drain.Perm (e.drain ++ [c]))
    (near : ∀ member ∈ e.drain, time.Near maxDelta member c) : joined.Gradual time maxDelta := by
  obtain ⟨order, members, pairs⟩ := gradual
  refine ⟨order ++ [c], (members.append_right [c]).trans drains.symm, ?_⟩
  refine List.pairwise_append.mpr ⟨pairs, List.pairwise_singleton _ c, fun member inOrder other last => ?_⟩
  rw [List.mem_singleton.mp last]
  exact near member (members.mem_iff.mp inOrder)

end Event

namespace Pass

variable {t : Terms} {planes : List UInt8} {maxDelta : UInt64} {time : ClusterTime} {p : Pass} {move : Move}
  {c : Cluster}

/-- Comparing centers, a walk lets a cluster join only if its plane is open and it is near to the whole event. -/
theorem Next.center_joins (next : Next t p move) (rule : t.rule = (MatchPolicy.centerProximity maxDelta time).rule)
    (sound : p.Sound planes) (joins : p.joining move = some c) :
    p.planeOpen c = true ∧ ∀ member ∈ p.event.drain, time.Near maxDelta member c := by
  by_cases empty : p.event.hits = []
  · obtain ⟨plane, _, on⟩ := (sound.queued c (next.takes sound joins).member).on
    exact ⟨planeOpen_of_empty empty on, by simp [Event.drain_eq_nil empty]⟩
  · obtain ⟨distance, near⟩ := next.belongs joins empty
    rw [rule] at near
    obtain ⟨opened, members⟩ := centerProximity_eq_some near
    exact ⟨planeOpen_iff.mpr opened, members⟩

theorem Next.gradual (next : Next t p move) (rule : t.rule = (MatchPolicy.centerProximity maxDelta time).rule)
    (sound : p.Sound planes) (gradual : ∀ e ∈ p.event :: p.closed.toList, e.Gradual time maxDelta) :
    ∀ e ∈ (p.apply move).event :: (p.apply move).closed.toList, e.Gradual time maxDelta := by
  cases joins : p.joining move with
  | none =>
    rw [next.eq_close joins]
    intro e member
    simp only [apply, close, Series.toList_push, List.mem_cons, List.mem_append, List.not_mem_nil, or_false] at member
    rcases member with rfl | old | rfl
    · exact .of_empty (Event.hits_ofPlanes _)
    · exact gradual e (List.mem_cons_of_mem _ old)
    · exact gradual _ List.mem_cons_self
  | some c =>
    have takes := next.takes sound joins
    obtain ⟨opened, near⟩ := next.center_joins rule sound joins
    intro e member
    rw [takes.closed] at member
    rcases List.mem_cons.mp member with rfl | old
    · exact (gradual _ List.mem_cons_self).concat (takes.drain_perm sound opened) near
    · exact gradual e (List.mem_cons_of_mem _ old)

/-- A walk that compares centers puts clusters into events as they are. -/
theorem Reaches.center {queue : List Cluster} (reach : Reaches t { queue, event := Event.ofPlanes planes } p)
    (rule : t.rule = (MatchPolicy.centerProximity maxDelta time).rule) (distinct : planes.Nodup)
    (tracked : ∀ c ∈ queue, c.Tracked planes) :
    p.held.Perm queue ∧ ∀ e ∈ p.event :: p.closed.toList, e.Gradual time maxDelta := by
  apply reach.preserves (.start distinct tracked)
  · rw [held_start]
    refine ⟨.refl queue, fun e member => ?_⟩
    simp only [Series.toList_empty, List.mem_singleton] at member
    rw [member]
    exact .of_empty (Event.hits_ofPlanes planes)
  · rintro p move sound ⟨held, gradual⟩ next
    refine ⟨(next.held_perm sound fun c joins => ?_).trans held, next.gradual rule sound gradual⟩
    exact (next.center_joins rule sound joins).1

end Pass

namespace Matcher

variable {m q : Matcher} {flushing : Bool} {maxDelta : UInt64} {time : ClusterTime}

theorem Matched.center (matched : Matched m flushing q)
    (rule : m.rule = (MatchPolicy.centerProximity maxDelta time).rule) (distinct : m.planes.Nodup)
    (tracked : ∀ c ∈ m.unmatched, c.Tracked m.planes) :
    ∃ closed, q.events = m.events ++ closed ∧ m.unmatched.Perm (q.unmatched ++ closed.flatMap Event.drain) ∧
      ∀ e ∈ closed, e.Gradual time maxDelta := by
  cases matched with
  | skipped idle => exact ⟨[], by simp, by simp, by simp⟩
  | @walked maxSpan pass some enough spans run walked =>
    obtain ⟨held, gradual⟩ := (Pass.reaches_of_walkWithin run).center (t := m.terms flushing maxSpan) rule distinct
      (sortByEnd_tracked tracked)
    refine ⟨pass.events flushing, rfl, ?_, fun e member => gradual e ?_⟩
    · exact ((sortByEnd_perm m.unmatched).symm.trans held.symm).trans (pass.held_perm flushing)
    · unfold Pass.events at member
      split at member
      · rw [Series.toList_push] at member
        exact (List.perm_append_singleton pass.event pass.closed.toList).subset member
      · exact List.mem_cons_of_mem _ member

end Matcher

namespace Ledger

open Matcher (Command)

/-- Every accepted cluster is queued or in a slot of a closed event as it was accepted, and each event was put
together from clusters that are near to each other. -/
structure Paired (time : ClusterTime) (maxDelta : UInt64) (planes : List UInt8) (commands : List Command)
    (l : Ledger) : Prop where
  whole : (commands.flatMap (·.accepted planes)).Perm (l.matcher.unmatched ++ l.closed.flatMap Event.drain)
  gradual : ∀ e ∈ l.closed, e.Gradual time maxDelta

variable {maxDelta : UInt64} {time : ClusterTime} {config : MatchConfig} {before : List Command} {command : Command}
  {l q : Ledger}

theorem Paired.performed (paired : Paired time maxDelta config.planes before l) (performed : l.Performed command q)
    (rule : l.matcher.rule = (MatchPolicy.centerProximity maxDelta time).rule) (distinct : config.planes.Nodup)
    (timed : Timed config before l) : Paired time maxDelta config.planes (before ++ [command]) q := by
  have spanning := timed.balanced.spanning
  cases performed with
  | @queued _ m _ _ queued =>
    have closed : closed { l with matcher := m } = l.closed := by rw [Ledger.closed, queued.events]; rfl
    refine ⟨?_, by rw [closed]; exact paired.gradual⟩
    rw [closed, queued.unmatched, spanning, List.flatMap_append, List.flatMap_singleton]
    refine (paired.whole.append_right _).trans ?_
    rw [← Multiset.coe_eq_coe]
    simp only [← Multiset.coe_add]
    abel
  | @matched _ m flushing idle matched =>
    obtain ⟨events, closing, kept, gradual⟩ := matched.center rule (timed.nodup_planes distinct) timed.tracked
    have closed : closed { l with matcher := m } = l.closed ++ events := by
      simp only [Ledger.closed, closing, List.append_assoc]
    constructor
    · rw [(flatMap_idle config.planes before idle).1, closed, List.flatMap_append]
      refine (paired.whole.trans (kept.append_right _)).trans ?_
      rw [← Multiset.coe_eq_coe]
      simp only [← Multiset.coe_add]
      abel
    · rw [closed]
      intro e member
      exact (List.mem_append.mp member).elim (paired.gradual e) (gradual e)
  | taken =>
    have closed : closed { matcher := l.matcher.take.2, taken := l.taken ++ l.matcher.take.1 } = l.closed :=
      List.append_nil _
    refine ⟨?_, by rw [closed]; exact paired.gradual⟩
    rw [(flatMap_idle config.planes before (rfl : Command.take.clusters = [])).1, closed]
    exact paired.whole

/-- Matching by centers never changes a cluster: all that were accepted are queued or in a slot of a closed event. No
event has two clusters of one plane, and what joins one is near to all that it has by then. -/
theorem center_pairs_unaltered (maxDelta : UInt64) (time : ClusterTime) (config : MatchConfig)
    (commands : List Command) (valid : config.check = .ok ()) (built : ∀ c ∈ commands.flatMap (·.clusters), c.Built)
    (limited : ClockLimited ((commands.flatMap (·.clusters)).flatMap Cluster.hits)) :
    ∃ start l, Matcher.ofRule (MatchPolicy.centerProximity maxDelta time).rule config = .ok start ∧
      performAll { matcher := start } commands = .ok l ∧
      (commands.flatMap (·.accepted config.planes)).Perm (l.matcher.unmatched ++ l.closed.flatMap Event.drain) ∧
      (∀ e ∈ l.closed, (e.drain.map (·.plane)).Nodup ∧
        ∃ order : List Cluster, order.Perm e.drain ∧ order.Pairwise (time.Near maxDelta)) ∧
      ∀ flushing maxSpan p move c, l.matcher.Visits flushing maxSpan p →
        p.next? (l.matcher.terms flushing maxSpan) = .ok (some move) → p.joining move = some c →
        ∀ member ∈ p.event.drain, time.Near maxDelta member c ∧ member.plane ≠ c.plane := by
  obtain ⟨start, l, new, run, timed, rule⟩ := exists_timed (.centerProximity maxDelta time) valid built limited
  have distinct := (MatchConfig.planesChecked_of_check valid).distinct
  have apart := timed.nodup_planes distinct
  obtain ⟨_, fresh⟩ := Timed.start new
  obtain ⟨own, none, noEvents⟩ := Matcher.ofRule_eq_ok new
  have blank : Paired time maxDelta config.planes [] { matcher := start } :=
    ⟨by simp [closed, none, noEvents], by simp [closed, noEvents]⟩
  obtain ⟨paired, _⟩ := fresh.performAll_induction
    (fun commands l => Paired time maxDelta config.planes commands l ∧
      l.matcher.rule = (MatchPolicy.centerProximity maxDelta time).rule)
    distinct (fun c member => (built c member).faithful) ⟨blank, own⟩
    (fun before command l q timed so performed =>
      ⟨so.1.performed performed so.2 distinct timed, performed.rule.trans so.2⟩) run
  rw [List.nil_append] at paired
  refine ⟨start, l, new, run, paired.whole, fun e member => ?_, fun flushing maxSpan p move c visit next joins => ?_⟩
  · exact ⟨(timed.balanced.sound e member).1.nodup_plane_drain, paired.gradual e member⟩
  · obtain ⟨sound, _⟩ := visit.sound apart timed.tracked
    obtain ⟨opened, near⟩ := (Pass.next?_sound next).center_joins rule sound joins
    exact fun member inside => ⟨near member inside, sound.event.plane_ne inside (Pass.planeOpen_iff.mp opened)⟩

/-- A pair has been closed, and of two clusters that wait the second is about to join the first. -/
theorem center_pairs_unaltered_twice :
    let rule := (MatchPolicy.centerProximity 10 .centerOfMass).rule
    let commands := [Command.insertCluster (.ofHits [⟨100, 0, 4, 1⟩, ⟨104, 0, 5, 1⟩]),
      .insertCluster (.ofHits [⟨105, 1, 4, 1⟩]), .flush,
      .insertCluster (.ofHits [⟨200, 0, 4, 1⟩]), .insertCluster (.ofHits [⟨204, 1, 4, 1⟩, ⟨206, 1, 4, 1⟩])]
    ∃ start l p c, Matcher.ofRule rule {} = .ok start ∧ performAll { matcher := start } commands = .ok l ∧
      (commands.flatMap (·.accepted [0, 1])).Perm (l.matcher.unmatched ++ l.closed.flatMap Event.drain) ∧
      l.closed.map (·.drain.map (·.hits)) = [[[⟨100, 0, 4, 1⟩, ⟨104, 0, 5, 1⟩], [⟨105, 1, 4, 1⟩]]] ∧
      (∀ e ∈ l.closed, (e.drain.map (·.plane)).Nodup) ∧ l.matcher.Visits true 3 p ∧
      p.next? (l.matcher.terms true 3) = .ok (some .join) ∧ p.joining .join = some c ∧
      (p.event.drain ++ [c]).map (·.hits) = [[⟨200, 0, 4, 1⟩], [⟨204, 1, 4, 1⟩, ⟨206, 1, 4, 1⟩]] ∧
      ∀ member ∈ p.event.drain, ClusterTime.Near .centerOfMass 10 member c ∧ member.plane ≠ c.plane := by
  intro rule commands
  have closes : ((Matcher.ofRule rule {}).toOption.bind fun start =>
      (performAll { matcher := start } commands).toOption.map (·.closed.map (·.drain.map (·.hits)))) =
      some [[[⟨100, 0, 4, 1⟩, ⟨104, 0, 5, 1⟩], [⟨105, 1, 4, 1⟩]]] := by decide +kernel
  have runs : ((Matcher.ofRule rule {}).toOption.bind fun start =>
      (performAll { matcher := start } commands).toOption.bind fun l =>
        let p : Pass := { queue := Matcher.sortByEnd l.matcher.unmatched, event := Event.ofPlanes l.matcher.planes }
        (p.join.joining .join).map fun c =>
          ((Matcher.longestSpan p.queue).toOption, [p, p.join].map fun p => (p.next? (l.matcher.terms true 3)).toOption,
            (p.join.event.drain ++ [c]).map (·.hits))) =
      some (some 3, [some (some .join), some (some .join)],
        [[⟨200, 0, 4, 1⟩], [⟨204, 1, 4, 1⟩, ⟨206, 1, 4, 1⟩]]) := by decide +kernel
  obtain ⟨start, new, runs⟩ := Option.bind_eq_some_iff.mp runs
  obtain ⟨l, run, runs⟩ := Option.bind_eq_some_iff.mp runs
  obtain ⟨c, joins, values⟩ := Option.map_eq_some_iff.mp runs
  rw [new, Option.bind_some, run, Option.map_some, Option.some.injEq] at closes
  simp only [Prod.mk.injEq, List.map_cons, List.cons.injEq] at values
  obtain ⟨spans, ⟨first, second, _⟩, members⟩ := values
  have visit : l.matcher.Visits true 3 _ :=
    ⟨fun none => absurd (none ▸ spans) (by decide), by simp, eq_ok_of_toOption spans,
      .single ⟨.join, eq_ok_of_toOption first, rfl⟩⟩
  obtain ⟨start', l', new', run', whole, pairs, joined⟩ := center_pairs_unaltered 10 .centerOfMass {} commands rfl
    (by simp [commands, Command.clusters, Cluster.Built.ofHits]) (by decide)
  rw [eq_ok_of_toOption new] at new'
  cases new'
  rw [eq_ok_of_toOption run] at run'
  cases run'
  exact ⟨start, l, _, c, eq_ok_of_toOption new, eq_ok_of_toOption run, whole, closes, fun e member => (pairs e member).1,
    visit, eq_ok_of_toOption second, joins, members,
    joined true 3 _ .join c visit (eq_ok_of_toOption second) joins⟩

end Ledger

end EventFormation
