import EventFormation.Proofs.Matching.EndPolls
import EventFormation.Proofs.Matching.Visits

namespace EventFormation

/-- A policy that compares what is known of the clusters exactly. The other one compares centers in floating point. -/
def MatchPolicy.comparesEnds : MatchPolicy → Bool
  | endProximity _ | overlapFraction _ _ | gapProximity _ => true
  | centerProximity _ _ => false

theorem readingAfter_lt {time later : UInt64} {ticks : Nat} (beyond : readingAfter time ticks < later.toNat) :
    time.toNat + ticks < later.toNat := by
  have word := later.toNat_lt
  simp only [readingAfter, lastTick] at beyond
  omega

section Beyond

variable {e : Event} {c : Cluster} {maxSpan span : Nat}

/-- A cluster that ends so late, and is not longer than the longest one, starts after the end of the event. -/
theorem Cluster.timeStart_beyond {time : UInt64} {gap : Nat} (filled : c.hits ≠ []) (long : c.timeSpan = .ok span)
    (bound : span ≤ maxSpan) (beyond : time.toNat + (gap + maxSpan) < c.timeEnd.toNat) :
    time.toNat + gap < c.timeStart.toNat := by
  rw [Cluster.timeSpan, Cluster.isEmpty_eq_false_iff.mpr filled] at long
  have ticks := (checkedSum_eq_ok_iff.mp long).2
  simp only [Cluster.stretch, ticksSince] at ticks
  omega

/-- What starts after the end of the event has no time in common with it. -/
theorem Event.stretches_apart {gap : Nat} (opened : e.hits ≠ []) (filled : c.hits ≠ [])
    (apart : e.timeEnd.toNat + gap < c.timeStart.toNat) :
    (e.isEmpty || c.isEmpty) = false ∧
      (min e.timeEnd c.timeEnd).toNat + gap < (max e.timeStart c.timeStart).toNat := by
  constructor
  · rw [Cluster.isEmpty_eq_false_iff.mpr filled, Bool.or_false, ← Bool.not_eq_true]
    exact fun none => opened (Event.isEmpty_iff.mp none)
  · have start : c.timeStart ≤ max e.timeStart c.timeStart := Std.right_le_max
    have stop : min e.timeEnd c.timeEnd ≤ e.timeEnd := Std.min_le_left
    rw [UInt64.le_iff_toNat_le] at start stop
    omega

theorem Event.timeGap_beyond {gap : Nat} (opened : e.hits ≠ []) (filled : c.hits ≠ [])
    (apart : e.timeEnd.toNat + gap < c.timeStart.toNat) : gap < e.timeGap c := by
  obtain ⟨some, later⟩ := Event.stretches_apart opened filled apart
  rw [Event.timeGap, some]
  simp only [Bool.false_eq_true, if_false, TimeSpan.gap, Event.stretch, Cluster.stretch, ticksSince]
  omega

theorem Event.overlapFraction_beyond (opened : e.hits ≠ []) (filled : c.hits ≠ [])
    (apart : e.timeEnd.toNat < c.timeStart.toNat) : e.overlapFraction c = .ok 0 := by
  obtain ⟨some, later⟩ := Event.stretches_apart opened filled (show e.timeEnd.toNat + 0 < _ from apart)
  have disjoint : e.timeOverlap c = .ok 0 := by
    rw [Event.timeOverlap, some]
    exact if_pos (UInt64.lt_iff_toNat_lt.mpr later)
  rw [Event.overlapFraction, disjoint]
  rfl

/-- No cluster that ends out of reach belongs to the event. -/
theorem MatchPolicy.proximity_beyond {policy : MatchPolicy} (exact : policy.comparesEnds = true) (opened : e.hits ≠ [])
    (filled : c.hits ≠ []) (long : c.timeSpan = .ok span) (bound : span ≤ maxSpan)
    (beyond : policy.rule.reach e maxSpan < c.timeEnd.toNat) : policy.rule.proximity e c = .ok none := by
  have later {ticks : Nat} := @readingAfter_lt e.timeEnd c.timeEnd ticks
  cases policy with
  | endProximity maxDelta =>
    have far := later beyond
    show Except.ok _ = _
    rw [if_neg]
    simp only [ticksApart, ticksSince]
    omega
  | gapProximity maxGap =>
    have apart := Cluster.timeStart_beyond filled long bound (later beyond)
    show Except.ok _ = _
    rw [if_neg (Nat.not_le.mpr (Event.timeGap_beyond opened filled apart))]
  | overlapFraction threshold maxGap =>
    have apart := Cluster.timeStart_beyond filled long bound (later beyond)
    have gap := Event.timeGap_beyond opened filled apart
    have fraction := Event.overlapFraction_beyond opened filled (Nat.lt_of_le_of_lt (Nat.le_add_right _ _) apart)
    show overlapProximity threshold maxGap e c = _
    have disjoint : ¬ (0 : Float) > 0 := by decide
    simp [overlapProximity, fraction, bind, Except.bind, disjoint, Nat.not_le.mpr gap, pure, Except.pure]
  | centerProximity maxDelta clusterTime => cases exact

end Beyond

namespace Pass

section Search

variable {rule : JoinRule} {event : Event} {inRange eligible eligible' : Cluster → Bool} {queue : List Cluster}

theorem closest_eq_ok_best (strange : ∀ c ∈ queue, eligible c = true → rule.proximity event c = .ok none)
    (place : Nat) (nearest : Float) (best : Option Nat) :
    closest rule event (fun _ => true) eligible place nearest best queue = .ok best := by
  induction queue generalizing place with
  | nil => rfl
  | cons c rest ih =>
    have later := ih (fun d member => strange d (List.mem_cons_of_mem c member)) (place + 1)
    unfold closest
    by_cases fits : eligible c = true
    · simp only [fits, strange c List.mem_cons_self fits, bind, Except.bind]
      exact later
    · simpa [fits] using later

/-- If nothing that belongs to the event comes after the first cluster out of range, a search that ends there finds
what a search of the whole queue does. -/
theorem closest_exhaustive (falling : queue.Pairwise fun a b => inRange b = true → inRange a = true)
    (within : ∀ c ∈ queue, inRange c = true → eligible' c = eligible c)
    (beyond : ∀ c ∈ queue, inRange c = false → eligible' c = true → rule.proximity event c = .ok none)
    (place : Nat) (nearest : Float) (best : Option Nat) :
    closest rule event inRange eligible place nearest best queue =
      closest rule event (fun _ => true) eligible' place nearest best queue := by
  induction queue generalizing place nearest best with
  | nil => rfl
  | cons c rest ih =>
    obtain ⟨first, falling⟩ := List.pairwise_cons.mp falling
    have later := ih falling (fun d member => within d (List.mem_cons_of_mem c member))
      (fun d member => beyond d (List.mem_cons_of_mem c member))
    by_cases near : inRange c = true
    · unfold closest
      simp only [near, within c List.mem_cons_self near, later]
    · rw [Bool.not_eq_true] at near
      have after : ∀ d ∈ c :: rest, inRange d = false := by
        intro d member
        rcases List.mem_cons.mp member with rfl | behind
        · exact near
        · rw [← Bool.not_eq_true]
          exact fun inside => Bool.false_ne_true (near.symm.trans (first d behind inside))
      rw [closest_eq_ok_best fun d member => beyond d member (after d member)]
      unfold closest
      simp [near]

end Search

/-- The search for a closer cluster of the plane of the front that looks at all ready ones, wherever they end. -/
def closerOfAll? (t : Terms) (p : Pass) (front : Cluster) (rest : List Cluster) (nearest : Float) :
    Except Fault (Option Nat) :=
  closest t.rule p.event (fun _ => true) (fun c => t.ready c && c.plane == front.plane) 0 nearest none rest

/-- The queue is in order of ends, and would still be with the deferred clusters before it. -/
def Ordered (p : Pass) : Prop := (p.deferred.toList ++ p.queue).Pairwise fun a b => a.timeEnd ≤ b.timeEnd

variable {t : Terms} {p q : Pass}

theorem Step.ordered (step : Step t p q) (ordered : p.Ordered) : q.Ordered := by
  cases step with
  | close filled =>
    rw [Ordered, Pass.close, Series.toList_empty, List.nil_append]
    exact ordered
  | @join front rest joined queue ready join =>
    refine ordered.sublist ?_
    rw [queue]
    exact (List.sublist_cons_self front rest).append_left _
  | @prefer front before closer after joined queue ready near filled join =>
    refine ordered.sublist ?_
    rw [queue, Series.toList_push, List.append_assoc, List.singleton_append]
    exact (((List.sublist_cons_self closer after).append_left before).cons_cons front).append_left _

theorem closer?_eq_closerOfAll? {policy : MatchPolicy} {front : Cluster} {rest : List Cluster} {nearest : Float}
    (rule : t.rule = policy.rule) (exact : policy.comparesEnds = true) (opened : p.event.hits ≠ [])
    (sorted : rest.Pairwise fun a b => a.timeEnd ≤ b.timeEnd)
    (rising : ∀ a b : Cluster, a.timeEnd ≤ b.timeEnd → t.ready b = true → t.ready a = true)
    (filled : ∀ c ∈ rest, c.hits ≠ []) (spans : ∀ c ∈ rest, ∃ span, c.timeSpan = .ok span ∧ span ≤ t.maxSpan) :
    closer? t p front rest nearest = closerOfAll? t p front rest nearest := by
  refine closest_exhaustive (sorted.imp fun {a b} ordered near => ?_) (fun c member near => ?_)
    (fun c member far fits => ?_) 0 nearest none
  · simp only [Bool.and_eq_true, decide_eq_true_eq] at near ⊢
    exact ⟨(UInt64.le_iff_toNat_le.mp ordered).trans near.1, rising a b ordered near.2⟩
  · simp only [Bool.and_eq_true] at near
    rw [near.2, Bool.true_and]
  · simp only [Bool.and_eq_true] at fits
    rw [fits.1, Bool.and_true, decide_eq_false_iff_not, Nat.not_le, rule] at far
    obtain ⟨span, long, bound⟩ := spans c member
    rw [rule]
    exact policy.proximity_beyond exact opened (filled c member) long bound far

end Pass

namespace Matcher

variable {m : Matcher} {flushing : Bool} {maxSpan : Nat} {p : Pass}

theorem le_longestSpan {clusters : List Cluster} (run : longestSpan clusters = .ok maxSpan) {c : Cluster}
    (member : c ∈ clusters) : ∃ span, c.timeSpan = .ok span ∧ span ≤ maxSpan := by
  obtain ⟨spans, measured, run⟩ := bind_eq_ok_iff.mp run
  cases run
  obtain ⟨span, inside, long⟩ := mem_of_mapM measured member
  obtain ⟨greatest, atMost⟩ := Option.isSome_iff_exists.mp (List.isSome_max?_of_ne_nil (List.ne_nil_of_mem inside))
  rw [atMost]
  exact ⟨span, long, (List.max?_eq_some_iff.mp atMost).2 span inside⟩

theorem ready_terms_of_le {c d : Cluster} (before : c.timeEnd ≤ d.timeEnd)
    (ready : (m.terms flushing maxSpan).ready d = true) : (m.terms flushing maxSpan).ready c = true := by
  rw [ready_terms, Bool.or_eq_true] at ready ⊢
  exact ready.imp_right fun final => isReady_of_le final (UInt64.le_iff_toNat_le.mp before)

theorem Visits.ordered (visit : m.Visits flushing maxSpan p) (distinct : m.planes.Nodup)
    (tracked : ∀ c ∈ m.unmatched, c.Tracked m.planes) : p.Ordered := by
  refine visit.reach.preserves (.start distinct (sortByEnd_tracked tracked)) ?_ ?_
  · rw [Pass.Ordered, Series.toList_empty, List.nil_append]
    exact sortByEnd_sorted m.unmatched
  · intro p move sound ordered next
    exact (next.step sound).ordered ordered

end Matcher

namespace Ledger

open Matcher (Command)

/-- Matching with a policy that compares ends keeps the queue in order of ends, behind all that is deferred. So
the search for a closer cluster, which ends where the event can reach no further or the first cluster is not ready,
finds the one that a search among all ready clusters would. -/
theorem matching_misses_no_candidate (policy : MatchPolicy) (exact : policy.comparesEnds = true) (config : MatchConfig)
    (commands : List Command) (valid : config.check = .ok ()) (built : ∀ c ∈ commands.flatMap (·.clusters), c.Built)
    (limited : ClockLimited ((commands.flatMap (·.clusters)).flatMap Cluster.hits)) :
    ∃ start l, Matcher.ofRule policy.rule config = .ok start ∧ performAll { matcher := start } commands = .ok l ∧
      ∀ flushing maxSpan p, l.matcher.Visits flushing maxSpan p →
        (p.queue.Pairwise fun a b => a.timeEnd ≤ b.timeEnd) ∧
        ∀ front rest, p.queue = front :: rest →
          (∀ c ∈ p.deferred.toList, c.timeEnd ≤ front.timeEnd) ∧
          (p.event.hits ≠ [] → ∀ nearest, ∃ found,
            p.closer? (l.matcher.terms flushing maxSpan) front rest nearest = .ok found ∧
            p.closerOfAll? (l.matcher.terms flushing maxSpan) front rest nearest = .ok found) := by
  obtain ⟨start, l, new, run, timed, rule⟩ := exists_timed policy valid built limited
  refine ⟨start, l, new, run, fun flushing maxSpan p visit => ?_⟩
  have distinct := timed.nodup_planes (MatchConfig.planesChecked_of_check valid).distinct
  have ordered := visit.ordered distinct timed.tracked
  obtain ⟨sound, fewer, inside⟩ := visit.sound distinct timed.tracked
  obtain ⟨_, sorted, waiting⟩ := List.pairwise_append.mp ordered
  refine ⟨sorted, fun front rest queue => ⟨fun c member => waiting c member front (by simp [queue]), ?_⟩⟩
  intro opened nearest
  have inQueue : ∀ c ∈ rest, c ∈ p.queue := fun c member => by
    rw [queue]
    exact List.mem_cons_of_mem front member
  rw [queue] at sorted
  have spans : ∀ c ∈ rest, ∃ span, c.timeSpan = .ok span ∧ span ≤ maxSpan := fun c member =>
    Matcher.le_longestSpan visit.spans ((Matcher.sortByEnd_perm l.matcher.unmatched).mem_iff.mpr
      (fewer (List.mem_append_left _ (inQueue c member))))
  have same : p.closer? (l.matcher.terms flushing maxSpan) front rest nearest =
      p.closerOfAll? (l.matcher.terms flushing maxSpan) front rest nearest :=
    Pass.closer?_eq_closerOfAll? rule exact opened (List.pairwise_cons.mp sorted).2
      (fun a b before ready => Matcher.ready_terms_of_le before ready)
      (fun c member => (sound.queued c (inQueue c member)).hits_ne_nil) spans
  have answers : l.matcher.rule.Answers (l.matcher.unmatched.flatMap Cluster.hits) := by
    rw [rule]
    exact policy.answers (limited.subset (timed.balanced.inside (List.Subset.refl _)))
  obtain ⟨found, atFound⟩ : ∃ found, p.closer? (l.matcher.terms flushing maxSpan) front rest nearest = .ok found :=
    Pass.closest_total (fun c member => sound.answered answers inside c (inQueue c member)) 0 nearest none
  exact ⟨found, atFound, same ▸ atFound⟩

/-- The front is ten ticks after the event, and the next cluster of its plane, which ends later, overlaps with it.
The last one is out of reach. -/
theorem matching_misses_no_candidate_gap :
    let policy := MatchPolicy.gapProximity 20
    let commands := [Command.insertCluster (.ofHits [⟨0, 0, 4, 1⟩, ⟨100, 0, 4, 1⟩]),
      .insert 1 [.ofHits [⟨110, 1, 4, 1⟩, ⟨112, 1, 4, 1⟩], .ofHits [⟨90, 1, 4, 1⟩, ⟨115, 1, 4, 1⟩],
        .ofHits [⟨500, 1, 4, 1⟩]]]
    ∃ start l p front rest nearest, Matcher.ofRule policy.rule {} = .ok start ∧
      performAll { matcher := start } commands = .ok l ∧ l.matcher.Visits true 101 p ∧ p.queue = front :: rest ∧
      p.event.hits ≠ [] ∧ l.matcher.rule.proximity p.event front = .ok (some nearest) ∧
      p.closerOfAll? (l.matcher.terms true 101) front rest nearest = .ok (some 0) := by
  intro policy commands
  have runs : ((Matcher.ofRule policy.rule {}).toOption.bind fun start =>
      (performAll { matcher := start } commands).toOption.map fun l =>
        let p : Pass := { queue := Matcher.sortByEnd l.matcher.unmatched, event := Event.ofPlanes l.matcher.planes }
        (l.matcher.unmatched.isEmpty, (Matcher.longestSpan p.queue).toOption,
          (p.next? (l.matcher.terms true 101)).toOption, (p.join.next? (l.matcher.terms true 101)).toOption)) =
      some (false, some 101, some (some .join), some (some (.prefer 0))) := by decide +kernel
  obtain ⟨start, new, runs⟩ := Option.bind_eq_some_iff.mp runs
  obtain ⟨l, run, values⟩ := Option.map_eq_some_iff.mp runs
  simp only [Prod.mk.injEq] at values
  obtain ⟨some, spans, first, second⟩ := values
  have visit : l.matcher.Visits true 101 _ :=
    ⟨fun none => by simp [none] at some, by simp, eq_ok_of_toOption spans,
      .single ⟨.join, eq_ok_of_toOption first, rfl⟩⟩
  obtain ⟨start', l', new', run', exact⟩ := matching_misses_no_candidate policy rfl {} commands rfl
    (by simp [commands, Command.clusters, Cluster.Built.ofHits]) (by decide)
  rw [eq_ok_of_toOption new] at new'
  cases new'
  rw [eq_ok_of_toOption run] at run'
  cases run'
  cases Pass.next?_sound (eq_ok_of_toOption second) with
  | @prefer front rest nearest _ queue _ opened near _ found =>
    obtain ⟨_, atFound, same⟩ := ((exact true 101 _ visit).2 front rest queue).2 opened nearest
    rw [Pass.apply, found] at atFound
    cases atFound
    exact ⟨start, l, _, front, rest, nearest, eq_ok_of_toOption new, eq_ok_of_toOption run, visit, queue, opened,
      near, same⟩

end Ledger

end EventFormation
