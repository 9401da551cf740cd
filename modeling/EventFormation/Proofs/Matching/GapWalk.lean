import EventFormation.Proofs.Matching.Distance
import EventFormation.Proofs.Matching.Joining

namespace EventFormation

/-- A longer stretch of time is no further from any other. -/
theorem TimeSpan.gap_mono {a a' b : TimeSpan} (start : a'.first ≤ a.first) (stop : a.last ≤ a'.last) :
    a'.gap b ≤ a.gap b := by
  have later : min a.last b.last ≤ min a'.last b.last :=
    Std.le_min_iff.mpr ⟨Std.le_trans Std.min_le_left stop, Std.min_le_right⟩
  have earlier : max a'.first b.first ≤ max a.first b.first :=
    Std.max_le_iff.mpr ⟨Std.le_trans start Std.left_le_max, Std.right_le_max⟩
  rw [UInt64.le_iff_toNat_le] at later earlier
  simp only [gap, ticksSince]
  omega

namespace Event

theorem timeGap_lt (e : Event) (c : Cluster) : e.timeGap c < wordCount := by
  have word := (max e.timeStart c.timeStart).toNat_lt
  simp only [timeGap, lastTick, TimeSpan.gap, stretch, Cluster.stretch, ticksSince, wordCount]
  split <;> omega

/-- No cluster that an event takes brings it further from any other. -/
theorem Joined.timeGap_le {e joined : Event} {c : Cluster} (join : e.Joined c joined) (sound : e.Sound)
    (sound' : joined.Sound) (filled : e.hits ≠ []) (d : Cluster) : joined.timeGap d ≤ e.timeGap d := by
  have hits := join.hits_perm
  have filled' : joined.hits ≠ [] := by
    intro none
    rw [none] at hits
    exact filled (List.append_eq_nil_iff.mp hits.symm.eq_nil).1
  have kept {time : UInt64} (member : time ∈ e.hits.map (·.time)) : time ∈ joined.hits.map (·.time) :=
    (hits.map _).symm.subset (by rw [List.map_append]; exact List.mem_append_left _ member)
  have times := sound.times filled
  have times' := sound'.times filled'
  have opened {e : Event} (some : e.hits ≠ []) : e.isEmpty = false := by
    rw [← Bool.not_eq_true]
    exact fun none => some (isEmpty_iff.mp none)
  rw [timeGap, timeGap, opened filled, opened filled', Bool.false_or]
  split
  · rfl
  · exact TimeSpan.gap_mono (times'.low_le _ (kept times.low_mem)) (times'.le_high _ (kept times.high_mem))

end Event

namespace Pass

/-- By a rule that counts ticks, what a search finds is nearer than what it starts from. -/
theorem closest_nearer {rule : JoinRule} {event : Event} {inRange eligible : Cluster → Bool} {ticks : Cluster → Nat}
    (counts : ∀ c distance, rule.proximity event c = .ok (some distance) →
      ticks c < wordCount ∧ distance = ticksFloat (ticks c))
    {place nearest found : Nat} (small : nearest < wordCount) {best : Option Nat} {queue : List Cluster}
    (run : closest rule event inRange eligible place (ticksFloat nearest) best queue = .ok (some found)) :
    best = some found ∨ ∃ behind c, found = place + behind ∧ queue[behind]? = some c ∧ ticks c < nearest := by
  induction queue generalizing place nearest best with
  | nil =>
    cases run
    exact .inl rfl
  | cons c rest ih =>
    have shift {nearest' : Nat} (within : nearest' ≤ nearest)
        (later : ∃ behind d, found = place + 1 + behind ∧ rest[behind]? = some d ∧ ticks d < nearest') :
        ∃ behind d, found = place + behind ∧ (c :: rest)[behind]? = some d ∧ ticks d < nearest := by
      obtain ⟨behind, d, there, atPlace, nearer⟩ := later
      exact ⟨behind + 1, d, by omega, by rwa [List.getElem?_cons_succ], by omega⟩
    unfold closest at run
    split at run
    · cases run
      exact .inl rfl
    split at run
    · obtain ⟨distance, atFront, run⟩ := bind_eq_ok_iff.mp run
      cases distance with
      | none => exact (ih small run).imp_right (shift (Nat.le_refl _))
      | some distance =>
        obtain ⟨word, rfl⟩ := counts c distance atFront
        dsimp only at run
        split at run
        · rename_i below
          have nearer : ticks c < nearest := by
            by_contra further
            exact ticksFloat_not_lt (Nat.not_lt.mp further) word below
          rcases ih word run with here | later
          · cases here
            exact .inr ⟨0, c, rfl, rfl, nearer⟩
          · exact .inr (shift nearer.le later)
        · exact (ih small run).imp_right (shift (Nat.le_refl _))
    · exact (ih small run).imp_right (shift (Nat.le_refl _))

variable {t : Terms} {planes : List UInt8} {maxGap : UInt64} {start p q : Pass} {move : Move} {behind : Nat}
  {front c : Cluster} {rest : List Cluster}

theorem gapProximity_eq_some {e : Event} {distance : Float} :
    (MatchPolicy.gapProximity maxGap).rule.proximity e c = .ok (some distance) ↔
      e.timeGap c ≤ maxGap.toNat ∧ distance = ticksFloat (e.timeGap c) := by
  simp only [MatchPolicy.rule, MatchPolicy.proximity, Except.ok.injEq]
  split <;> simp_all [eq_comm]

theorem gapProximity_eq_none {e : Event} :
    (MatchPolicy.gapProximity maxGap).rule.proximity e c = .ok none ↔ maxGap.toNat < e.timeGap c := by
  simp only [MatchPolicy.rule, MatchPolicy.proximity, Except.ok.injEq]
  split <;> simp_all

/-- A cluster is passed over only where it is within the gap and one of its plane, which is still open, is nearer. -/
structure Outdone (p : Pass) (maxGap : UInt64) (behind : Nat) (front closer : Cluster) : Prop where
  atFront : p.queue.head? = some front
  within : p.event.timeGap front ≤ maxGap.toNat
  opened : p.planeOpen front = true
  joins : p.joining (.prefer behind) = some closer
  plane : closer.plane = front.plane
  nearer : p.event.timeGap closer < p.event.timeGap front

theorem Next.outdone (rule : t.rule = (MatchPolicy.gapProximity maxGap).rule) (next : Next t p (.prefer behind)) :
    ∃ front closer, p.Outdone maxGap behind front closer := by
  cases next with
  | @prefer front rest nearest _ queue ready filled near opened found =>
    obtain ⟨closer, atPlace, _, alike, _⟩ := closer?_eq_some found
    rw [rule, gapProximity_eq_some] at near
    obtain ⟨within, rfl⟩ := near
    refine ⟨front, closer, by rw [queue]; rfl, within, opened, ?_, alike, ?_⟩
    · rwa [joining, queue, List.getElem?_cons_succ]
    · rw [closer?, rule] at found
      rcases closest_nearer (fun d distance belongs => ⟨p.event.timeGap_lt d, (gapProximity_eq_some.mp belongs).2⟩)
        (p.event.timeGap_lt front) found with none | ⟨place, d, there, atPlace', nearer⟩
      · cases none
      · rw [Nat.zero_add] at there
        cases there
        rw [atPlace] at atPlace'
        cases atPlace'
        exact nearer

/-- What the gap of the front decides on. -/
theorem gap_front (rule : t.rule = (MatchPolicy.gapProximity maxGap).rule) (queue : p.queue = front :: rest)
    (ready : t.ready front = true) (filled : p.event.hits ≠ []) :
    if p.event.timeGap front ≤ maxGap.toNat then
      next? t p = .ok (some .join) ∨
        ∃ behind closer, next? t p = .ok (some (.prefer behind)) ∧ p.Outdone maxGap behind front closer
    else next? t p = .ok (some .close) := by
  obtain ⟨answer, next⟩ : ∃ answer, next? t p = .ok answer := next?_answered fun c _ => ⟨_, by rw [rule]; rfl⟩
  cases answer with
  | none =>
    rcases next?_eq_none next with ⟨none, _⟩ | ⟨other, others, queue', late⟩
    · rw [none] at queue
      cases queue
    · rw [queue] at queue'
      cases queue'
      rw [ready] at late
      cases late
  | some move =>
    have made := next?_sound next
    cases move with
    | close =>
      rw [if_neg]
      · exact next
      · cases made with
        | finish none =>
          rw [none] at queue
          cases queue
        | part queue' _ _ apart =>
          rw [queue] at queue'
          cases queue'
          rw [rule, gapProximity_eq_none] at apart
          omega
    | join =>
      rw [if_pos]
      · exact .inl next
      · cases made with
        | seed _ _ empty => exact absurd empty filled
        | join queue' _ _ near =>
          rw [queue] at queue'
          cases queue'
          rw [rule, gapProximity_eq_some] at near
          exact near.1
    | prefer behind =>
      obtain ⟨first, closer, outdone⟩ := made.outdone rule
      have same := outdone.atFront
      rw [queue] at same
      cases same
      rw [if_pos outdone.within]
      exact .inr ⟨behind, closer, next, outdone⟩

/-- While the event of a state was built, the walk passed over the cluster. -/
def PassedOver (t : Terms) (maxGap : UInt64) (start p : Pass) (c : Cluster) : Prop :=
  ∃ q behind closer, Reaches t start q ∧ q.closed = p.closed ∧ next? t q = .ok (some (.prefer behind)) ∧
    q.Outdone maxGap behind c closer

theorem deferred_join (p : Pass) : p.join.deferred = p.deferred := by
  unfold join
  split
  · rfl
  · split <;> rfl

theorem mem_deferred_apply (deferred : c ∈ (p.apply move).deferred.toList) :
    c ∈ p.deferred.toList ∧ move ≠ .close ∨ p.queue.head? = some c ∧ ∃ behind, move = .prefer behind := by
  cases move with
  | close => simp [apply, close] at deferred
  | join =>
    rw [apply, deferred_join] at deferred
    exact .inl ⟨deferred, by simp⟩
  | prefer behind =>
    rw [apply, prefer] at deferred
    split at deferred
    · exact .inl ⟨deferred, by simp⟩
    · rename_i front rest queue
      split at deferred
      · exact .inl ⟨deferred, by simp⟩
      · rw [Series.toList_push, List.mem_append, List.mem_singleton] at deferred
        rcases deferred with old | rfl
        · exact .inl ⟨old, by simp⟩
        · exact .inr ⟨by rw [queue]; rfl, behind, rfl⟩

/-- Whatever is deferred was passed over for the event that is built, and has been within the gap ever since. -/
theorem Reaches.deferred_within (reach : Reaches t start p) (rule : t.rule = (MatchPolicy.gapProximity maxGap).rule)
    (sound : start.Sound planes) (fresh : start.deferred.toList = []) :
    p.Sound planes ∧ ∀ c ∈ p.deferred.toList, p.event.timeGap c ≤ maxGap.toNat ∧ PassedOver t maxGap start p c := by
  induction reach with
  | refl => exact ⟨sound, by simp [fresh]⟩
  | @tail p _ before last ih =>
    obtain ⟨sound, deferred⟩ := ih
    obtain ⟨move, next, rfl⟩ := last
    have made := next?_sound next
    have sound' := (made.step sound).sound sound
    refine ⟨sound', fun c member => ?_⟩
    have known : p.event.timeGap c ≤ maxGap.toNat ∧ move ≠ .close ∧ p.event.hits ≠ [] ∧ PassedOver t maxGap start p c := by
      rcases mem_deferred_apply member with ⟨old, goesOn⟩ | ⟨front, behind, rfl⟩
      · obtain ⟨within, passed⟩ := deferred c old
        exact ⟨within, goesOn, sound.waiting (List.ne_nil_of_mem old), passed⟩
      · obtain ⟨first, closer, outdone⟩ := made.outdone rule
        have same := outdone.atFront
        rw [front] at same
        cases same
        refine ⟨outdone.within, by simp, ?_, p, behind, closer, before, rfl, next, outdone⟩
        cases made with
        | prefer _ _ filled => exact filled
    obtain ⟨within, goesOn, filled, q, behind, closer, reach, closed, passed⟩ := known
    cases joins : p.joining move with
    | none => exact absurd (made.eq_close joins) goesOn
    | some d =>
      have takes := made.takes sound joins
      exact ⟨(takes.joined.timeGap_le sound.event sound'.event filled c).trans within,
        q, behind, closer, reach, closed.trans takes.closed.symm, passed⟩

/-- What is passed over comes first in the next event, so an event starts within the gap of the one before it just
where a cluster was passed over for that one. -/
theorem Next.seeds (next : Next t p .close) (rule : t.rule = (MatchPolicy.gapProximity maxGap).rule)
    (ready : ∀ c, t.ready c = true)
    (within : ∀ c ∈ p.deferred.toList, p.event.timeGap c ≤ maxGap.toNat) :
    ∃ seed rest, p.close.queue = seed :: rest ∧ next? t p.close = .ok (some .join) ∧
      (p.event.timeGap seed ≤ maxGap.toNat ↔ seed ∈ p.deferred.toList) := by
  have seeds {seed : Cluster} {rest : List Cluster} (queue : p.close.queue = seed :: rest) :
      next? t p.close = .ok (some .join) := by
    have cleared : p.close.event.isEmpty = true := Event.isEmpty_iff.mpr (Event.hits_ofPlanes _)
    unfold next?
    rw [queue]
    simp only [ready, cleared, Bool.not_true, Bool.false_eq_true, if_false, if_true]
  cases deferred : p.deferred.toList with
  | cons seed rest =>
    have queue : p.close.queue = seed :: (rest ++ p.queue) := by rw [close, deferred, List.cons_append]
    rw [deferred] at within
    exact ⟨seed, _, queue, seeds queue, iff_of_true (within seed List.mem_cons_self) List.mem_cons_self⟩
  | nil =>
    cases next with
    | finish _ _ waiting => exact absurd deferred waiting
    | @part front rest atFront _ _ apart =>
      have queue : p.close.queue = front :: rest := by rw [close, deferred, List.nil_append, atFront]
      rw [rule, gapProximity_eq_none] at apart
      exact ⟨front, rest, queue, seeds queue, iff_of_false (Nat.not_le.mpr apart) List.not_mem_nil⟩

end Pass

namespace Matcher

variable {m q : Matcher} {flushing : Bool} {maxSpan : Nat} {p : Pass}

/-- An event that is closed on the way is among those that a matcher ends up with. -/
theorem Visits.event_mem (visit : m.Visits flushing maxSpan p) (matched : m.Matched flushing q) (distinct : m.planes.Nodup)
    (tracked : ∀ c ∈ m.unmatched, c.Tracked m.planes)
    (closes : Pass.next? (m.terms flushing maxSpan) p = .ok (some .close)) : p.event ∈ q.events := by
  cases matched with
  | skipped idle =>
    rcases idle with none | ⟨polling, few⟩
    · exact absurd none visit.filled
    · exact absurd few (Nat.not_lt.mpr (visit.enough polling))
  | @walked maxSpan' pass _ _ spans run walked =>
    have same : maxSpan' = maxSpan := Except.ok.inj (spans.symm.trans visit.spans)
    rw [same] at run walked
    have closed : Pass.Reaches _ _ p.close := visit.reach.tail ⟨.close, closes, rfl⟩
    have sound := (visit.sound distinct tracked).1
    have onward := (closed.before_end (Pass.reaches_of_walkWithin run) walked.ended).onward
      (((Pass.next?_sound closes).step sound).sound sound)
    have member : p.event ∈ pass.closed.toList := onward.2.subset (by simp [Pass.close])
    refine List.mem_append_right _ ?_
    unfold Pass.events
    split
    · rw [Series.toList_push]
      exact List.mem_append_left _ member
    · exact member

end Matcher

namespace Ledger

open Matcher (Command)

/-- A flush by gaps that closes an event and goes on starts the next one with a cluster beyond the gap, unless a cluster
was passed over for the closed one. As long as an event is built, what is within the gap joins it as soon as it comes
first, unless its plane is still open and a nearer cluster of that plane joins instead. -/
theorem gap_flush_seeds (maxGap : UInt64) (config : MatchConfig) (commands : List Command)
    (valid : config.check = .ok ()) (built : ∀ c ∈ commands.flatMap (·.clusters), c.Built)
    (limited : ClockLimited ((commands.flatMap (·.clusters)).flatMap Cluster.hits)) :
    ∃ start l m, Matcher.ofRule (MatchPolicy.gapProximity maxGap).rule config = .ok start ∧
      performAll { matcher := start } commands = .ok l ∧ l.matcher.flush = .ok m ∧ m.unmatched = [] ∧
      ∀ maxSpan p, l.matcher.Visits true maxSpan p →
        let t := l.matcher.terms true maxSpan
        let first : Pass := { queue := Matcher.sortByEnd l.matcher.unmatched, event := Event.ofPlanes l.matcher.planes }
        (Pass.next? t p = .ok (some .close) → p.event ∈ m.events ∧
          ∃ seed rest, p.close.queue = seed :: rest ∧ Pass.next? t p.close = .ok (some .join) ∧
            (maxGap.toNat < p.event.timeGap seed ∨
              p.event.timeGap seed ≤ maxGap.toNat ∧ Pass.PassedOver t maxGap first p seed)) ∧
        ∀ front rest, p.queue = front :: rest → p.event.hits ≠ [] → p.event.timeGap front ≤ maxGap.toNat →
          ∃ move c, Pass.next? t p = .ok (some move) ∧ p.joining move = some c ∧
            p.event.Joined c (p.apply move).event ∧
            (move = .join ∧ c = front ∨ ∃ behind, move = .prefer behind ∧ p.Outdone maxGap behind front c) := by
  obtain ⟨start, l, new, run, timed, rule⟩ := exists_timed (.gapProximity maxGap) valid built limited
  have distinct := (MatchConfig.planesChecked_of_check valid).distinct
  have apart := timed.nodup_planes distinct
  obtain ⟨m, _, flush, matched, _⟩ := timed.balanced.matchQueue distinct
    (by rw [rule]; exact (MatchPolicy.gapProximity maxGap).answers limited) limited (List.Subset.refl _) true
  refine ⟨start, l, m, new, run, flush, matched.unmatched_eq_nil, fun maxSpan p visit => ?_⟩
  intro t first
  have ready (c : Cluster) : t.ready c = true := by simp [t]
  obtain ⟨sound, deferred⟩ := visit.reach.deferred_within rule
    (.start apart (Matcher.sortByEnd_tracked timed.tracked)) rfl
  refine ⟨fun closes => ⟨visit.event_mem matched apart timed.tracked closes, ?_⟩, fun front rest queue filled within => ?_⟩
  · obtain ⟨seed, rest, queue, joins, waited⟩ :=
      (Pass.next?_sound closes).seeds rule ready fun c member => (deferred c member).1
    refine ⟨seed, rest, queue, joins, ?_⟩
    rcases Nat.lt_or_ge maxGap.toNat (p.event.timeGap seed) with beyond | near
    · exact .inl beyond
    · exact .inr ⟨near, (deferred seed (waited.mp near)).2⟩
  · have decides := Pass.gap_front rule queue (ready front) filled
    rw [if_pos within] at decides
    rcases decides with joins | ⟨behind, closer, prefers, outdone⟩
    · have takes : p.joining .join = some front := by rw [Pass.joining, queue]; rfl
      exact ⟨.join, front, joins, takes, ((Pass.next?_sound joins).takes sound takes).joined, .inl ⟨rfl, rfl⟩⟩
    · exact ⟨.prefer behind, closer, prefers, outdone.joins,
        ((Pass.next?_sound prefers).takes sound outdone.joins).joined, .inr ⟨behind, rfl, outdone⟩⟩

/-- The cluster that starts the second event was passed over for the first one, and the third event starts beyond the
gap. -/
theorem gap_flush_seeds_three :
    let commands := [Command.insertCluster (.ofHits [⟨0, 0, 1, 1⟩, ⟨10, 0, 1, 1⟩]),
      .insert 1 [.ofHits [⟨15, 1, 1, 1⟩, ⟨20, 1, 1, 1⟩], .ofHits [⟨8, 1, 1, 1⟩, ⟨30, 1, 1, 1⟩]],
      .insertCluster (.ofHits [⟨50, 0, 1, 1⟩])]
    ∃ start l m, Matcher.ofRule (MatchPolicy.gapProximity 5).rule {} = .ok start ∧
      performAll { matcher := start } commands = .ok l ∧ l.matcher.flush = .ok m ∧
      let t := l.matcher.terms true 23
      let first : Pass := { queue := Matcher.sortByEnd l.matcher.unmatched, event := Event.ofPlanes l.matcher.planes }
      ∃ p q, l.matcher.Visits true 23 p ∧ p.event ∈ m.events ∧
        (∃ seed rest, p.close.queue = seed :: rest ∧ p.event.timeGap seed ≤ 5 ∧ Pass.PassedOver t 5 first p seed) ∧
        l.matcher.Visits true 23 q ∧ q.event ∈ m.events ∧
        ∃ seed rest, q.close.queue = seed :: rest ∧ 5 < q.event.timeGap seed := by
  intro commands
  have runs : ((Matcher.ofRule (MatchPolicy.gapProximity 5).rule {}).toOption.bind fun start =>
      (performAll { matcher := start } commands).toOption.bind fun l =>
        let first : Pass := { queue := Matcher.sortByEnd l.matcher.unmatched, event := Event.ofPlanes l.matcher.planes }
        let second := (first.join.prefer 0).close
        (Matcher.longestSpan first.queue).toOption.map fun span =>
          (span, [first, first.join, first.join.prefer 0, second, second.join].map fun p =>
            (p.next? (l.matcher.terms true 23)).toOption,
            [first.join.prefer 0, second.join].map fun p => p.close.queue.head?.map p.event.timeGap)) =
      some (23, [.join, .prefer 0, .close, .join, .close].map fun move => some (some move), [some 0, some 30]) := by
    decide +kernel
  obtain ⟨start, new, runs⟩ := Option.bind_eq_some_iff.mp runs
  obtain ⟨l, run, runs⟩ := Option.bind_eq_some_iff.mp runs
  obtain ⟨span, spans, values⟩ := Option.map_eq_some_iff.mp runs
  simp only [Prod.mk.injEq, List.map_cons, List.map_nil, List.cons.injEq, and_true] at values
  obtain ⟨rfl, ⟨joins, prefers, closes, seeds, ends⟩, near, far⟩ := values
  obtain ⟨start', l', m, new', run', flush, _, visited⟩ := gap_flush_seeds 5 {} commands rfl
    (by simp [commands, Command.clusters, Cluster.Built.ofHits]) (by decide)
  rw [eq_ok_of_toOption new] at new'
  cases new'
  rw [eq_ok_of_toOption run] at run'
  cases run'
  let first : Pass := { queue := Matcher.sortByEnd l.matcher.unmatched, event := Event.ofPlanes l.matcher.planes }
  have begun : Pass.Reaches (l.matcher.terms true 23) first (first.join.prefer 0) :=
    (Relation.ReflTransGen.single ⟨.join, eq_ok_of_toOption joins, rfl⟩).tail ⟨.prefer 0, eq_ok_of_toOption prefers, rfl⟩
  have onward : Pass.Reaches (l.matcher.terms true 23) first (first.join.prefer 0).close.join :=
    (begun.tail ⟨.close, eq_ok_of_toOption closes, rfl⟩).tail ⟨.join, eq_ok_of_toOption seeds, rfl⟩
  have some : l.matcher.unmatched ≠ [] := by
    intro none
    rw [none] at spans
    have empty : (Matcher.longestSpan (Matcher.sortByEnd [])).toOption = some 23 := spans
    exact absurd empty (by decide)
  have visit {p : Pass} (reach : Pass.Reaches (l.matcher.terms true 23) first p) : l.matcher.Visits true 23 p :=
    ⟨some, by simp, eq_ok_of_toOption spans, reach⟩
  obtain ⟨inFirst, seed, rest, queue, _, split⟩ := (visited 23 _ (visit begun)).1 (eq_ok_of_toOption closes)
  obtain ⟨inSecond, seed', rest', queue', _, _⟩ := (visited 23 _ (visit onward)).1 (eq_ok_of_toOption ends)
  rw [queue, List.head?_cons, Option.map_some, Option.some_inj] at near
  rw [queue', List.head?_cons, Option.map_some, Option.some_inj] at far
  have within := split.resolve_left (by rw [near]; decide)
  exact ⟨start, l, m, eq_ok_of_toOption new, eq_ok_of_toOption run, flush, _, _, visit begun, inFirst,
    ⟨seed, rest, queue, within⟩, visit onward, inSecond, seed', rest', queue', by rw [far]; decide⟩

/-- A short cluster is passed over for a longer one that meets the event, and starts the next event, though it is in
the middle of the closed one. -/
theorem gap_flush_splits :
    let commands := [Command.insertCluster (.ofHits [⟨0, 0, 1, 1⟩, ⟨10, 0, 1, 1⟩]),
      .insert 1 [.ofHits [⟨15, 1, 1, 1⟩, ⟨20, 1, 1, 1⟩], .ofHits [⟨8, 1, 1, 1⟩, ⟨30, 1, 1, 1⟩]]]
    ∃ start l m closed next seed, Matcher.ofRule (MatchPolicy.gapProximity 5).rule {} = .ok start ∧
      performAll { matcher := start } commands = .ok l ∧ l.matcher.flush = .ok m ∧
      m.events = [closed, next] ∧ next.drain = [seed] ∧ closed.timeGap seed ≤ 5 := by
  intro commands
  have runs : ((Matcher.ofRule (MatchPolicy.gapProximity 5).rule {}).toOption.bind fun start =>
      (performAll { matcher := start } commands).toOption.bind fun l => l.matcher.flush.toOption.bind fun m =>
        m.events[0]?.bind fun closed => m.events[1]?.bind fun next => next.drain[0]?.map fun seed =>
          (m.events.length, next.drain.length, closed.timeGap seed)) = some (2, 1, 0) := by decide +kernel
  obtain ⟨start, new, runs⟩ := Option.bind_eq_some_iff.mp runs
  obtain ⟨l, run, runs⟩ := Option.bind_eq_some_iff.mp runs
  obtain ⟨m, flush, runs⟩ := Option.bind_eq_some_iff.mp runs
  obtain ⟨closed, atClosed, runs⟩ := Option.bind_eq_some_iff.mp runs
  obtain ⟨next, atNext, runs⟩ := Option.bind_eq_some_iff.mp runs
  obtain ⟨seed, atSeed, values⟩ := Option.map_eq_some_iff.mp runs
  simp only [Prod.mk.injEq] at values
  obtain ⟨two, one, gap⟩ := values
  obtain ⟨_, _, events⟩ := List.length_eq_two.mp two
  obtain ⟨_, alone⟩ := List.length_eq_one_iff.mp one
  rw [events] at atClosed atNext
  rw [alone] at atSeed
  cases atClosed
  cases atNext
  cases atSeed
  exact ⟨start, l, m, closed, next, seed, eq_ok_of_toOption new, eq_ok_of_toOption run, eq_ok_of_toOption flush, events,
    alone, by omega⟩

end Ledger

end EventFormation
