import EventFormation.Proofs.Matching.Polls
import EventFormation.Proofs.Pairs

namespace EventFormation

variable {planes : List UInt8} {clusters : Cluster → Cluster → Prop} {events : Event → Event → Prop}
  {rule : JoinRule} {t : Pass.Terms} {c d : Cluster} {e e' : Event} {queue queue' : List Cluster}

/-- What two walks by one rule have in common where their clusters and events correspond to each other. No question of
the rule about an event without hits is ever asked. -/
structure JoinRule.Correspondence (rule : JoinRule) (planes : List UInt8) (clusters : Cluster → Cluster → Prop)
    (events : Event → Event → Prop) : Prop where
  plane : ∀ {c d}, clusters c d → c.plane = d.plane
  timeSpan : ∀ {c d}, clusters c d → c.timeSpan = d.timeSpan
  ends : ∀ {c d c' d'}, clusters c d → clusters c' d' → (c.timeEnd ≤ c'.timeEnd ↔ d.timeEnd ≤ d'.timeEnd)
  start : events (.ofPlanes planes) (.ofPlanes planes)
  spanning : ∀ {e e'}, events e e' → e.planes = planes ∧ e'.planes = planes
  isEmpty : ∀ {e e'}, events e e' → e.isEmpty = e'.isEmpty
  opened : ∀ {e e' c d plane}, events e e' → clusters c d → c.plane = some plane →
    (e.cluster? plane).isNone = (e'.cluster? plane).isNone
  joins : ∀ {e e' c d}, events e e' → clusters c d → ∃ joined joined' rest rest',
    e.merge c = some (joined, rest) ∧ e'.merge d = some (joined', rest') ∧ events joined joined'
  proximity : ∀ {e e' c d}, events e e' → clusters c d → e.isEmpty = false →
    rule.proximity e c = rule.proximity e' d
  reach : ∀ {e e' c d} maxSpan, events e e' → clusters c d → e.isEmpty = false →
    (c.timeEnd.toNat ≤ rule.reach e maxSpan ↔ d.timeEnd.toNat ≤ rule.reach e' maxSpan)

namespace Pass

/-- Two walks that are equally far. -/
structure Related (clusters : Cluster → Cluster → Prop) (events : Event → Event → Prop) (p q : Pass) : Prop where
  queue : List.Forall₂ clusters p.queue q.queue
  event : events p.event q.event
  deferred : List.Forall₂ clusters p.deferred.toList q.deferred.toList
  closed : List.Forall₂ events p.closed.toList q.closed.toList

variable {p q result : Pass}

theorem closest_related {inRange inRange' eligible eligible' : Cluster → Bool} {place : Nat} {nearest : Float}
    {best : Option Nat} (proximity : ∀ {c d}, clusters c d → rule.proximity e c = rule.proximity e' d)
    (range : ∀ {c d}, clusters c d → inRange c = inRange' d) (fits : ∀ {c d}, clusters c d → eligible c = eligible' d)
    (same : List.Forall₂ clusters queue queue') :
    closest rule e inRange eligible place nearest best queue =
      closest rule e' inRange' eligible' place nearest best queue' := by
  induction same generalizing place nearest best with
  | nil => rfl
  | cons same _ ih => simp only [closest, range same, fits same, proximity same, ih]

section Walks

variable (relates : t.rule.Correspondence planes clusters events)
  (ready : ∀ {c d}, clusters c d → t.ready c = t.ready d)

include relates ready

theorem Related.closer? {front front' : Cluster} (related : Related clusters events p q) (same : clusters front front')
    (filled : p.event.isEmpty = false) (rest : List.Forall₂ clusters queue queue') (nearest : Float) :
    Pass.closer? t p front queue nearest = Pass.closer? t q front' queue' nearest := by
  refine closest_related (fun near => relates.proximity related.event near filled) (fun near => ?_) (fun near => ?_) rest
  · rw [ready near, decide_eq_decide.mpr (relates.reach t.maxSpan related.event near filled)]
  · rw [relates.plane same, relates.plane near]

/-- Both walks make the same move next. -/
theorem Related.next? (related : Related clusters events p q) : Pass.next? t p = Pass.next? t q := by
  cases queue : p.queue with
  | nil =>
    have none : q.queue = [] := List.forall₂_nil_left_iff.mp (queue ▸ related.queue)
    have waiting : p.deferred.isEmpty = q.deferred.isEmpty := by
      rw [Series.isEmpty_eq, Series.isEmpty_eq, Bool.eq_iff_iff, List.isEmpty_iff_length_eq_zero,
        List.isEmpty_iff_length_eq_zero, related.deferred.length_eq]
    simp only [Pass.next?, queue, none, waiting]
  | cons front rest =>
    obtain ⟨front', rest', same, behind, queue'⟩ := List.forall₂_cons_left_iff.mp (queue ▸ related.queue)
    have opened : p.planeOpen front = q.planeOpen front' := by
      rw [planeOpen, planeOpen, ← relates.plane same]
      cases on : front.plane with
      | none => rfl
      | some plane => exact relates.opened related.event same on
    cases empty : p.event.isEmpty with
    | true => simp only [Pass.next?, queue, queue', ready same, ← relates.isEmpty related.event, empty, if_true]
    | false => simp only [Pass.next?, queue, queue', ready same, ← relates.isEmpty related.event, empty,
        relates.proximity related.event same empty, opened, related.closer? relates ready same empty behind]

omit ready

theorem Related.close (related : Related clusters events p q) : Related clusters events p.close q.close where
  queue := List.rel_append related.deferred related.queue
  event := by
    obtain ⟨left, right⟩ := relates.spanning related.event
    show events (Event.ofPlanes p.event.planes) (Event.ofPlanes q.event.planes)
    rw [left, right]
    exact relates.start
  deferred := .nil
  closed := by
    simp only [Pass.close, Series.toList_push]
    exact List.rel_append related.closed (.cons related.event .nil)

theorem Related.join (related : Related clusters events p q) : Related clusters events p.join q.join := by
  cases queue : p.queue with
  | nil =>
    have none : q.queue = [] := List.forall₂_nil_left_iff.mp (queue ▸ related.queue)
    simpa only [Pass.join, queue, none] using related
  | cons front rest =>
    obtain ⟨front', rest', same, behind, queue'⟩ := List.forall₂_cons_left_iff.mp (queue ▸ related.queue)
    obtain ⟨joined, joined', _, _, merge, merge', event⟩ := relates.joins related.event same
    simp only [Pass.join, queue, queue', merge, merge']
    exact ⟨behind, event, related.deferred, related.closed⟩

theorem Related.prefer (related : Related clusters events p q) (place : Nat) :
    Related clusters events (p.prefer place) (q.prefer place) := by
  cases queue : p.queue with
  | nil =>
    have none : q.queue = [] := List.forall₂_nil_left_iff.mp (queue ▸ related.queue)
    simpa only [Pass.prefer, queue, none] using related
  | cons front rest =>
    obtain ⟨front', rest', same, behind, queue'⟩ := List.forall₂_cons_left_iff.mp (queue ▸ related.queue)
    by_cases inside : place < rest.length
    · have inside' : place < rest'.length := behind.length_eq ▸ inside
      have closer : clusters rest[place] rest'[place] := behind.get inside inside'
      obtain ⟨joined, joined', _, _, merge, merge', event⟩ := relates.joins related.event closer
      simp only [Pass.prefer, queue, queue', List.getElem?_eq_getElem inside, List.getElem?_eq_getElem inside', merge,
        merge', List.eraseIdx_eq_take_drop_succ]
      refine ⟨?_, event, ?_, related.closed⟩
      · exact List.rel_append (List.forall₂_take place behind) (List.forall₂_drop (place + 1) behind)
      · simp only [Series.toList_push]
        exact List.rel_append related.deferred (.cons same .nil)
    · have outside : rest[place]? = none := List.getElem?_eq_none (Nat.not_lt.mp inside)
      have outside' : rest'[place]? = none := List.getElem?_eq_none (behind.length_eq ▸ Nat.not_lt.mp inside)
      simpa only [Pass.prefer, queue, queue', outside, outside'] using related

theorem Related.apply (related : Related clusters events p q) (move : Move) :
    Related clusters events (p.apply move) (q.apply move) := by
  cases move with
  | close => exact related.close relates
  | join => exact related.join relates
  | prefer place => exact related.prefer relates place

include ready

theorem Related.walkWithin {fuel : Nat} (related : Related clusters events p q)
    (run : Pass.walkWithin t fuel p = .ok result) :
    ∃ result', Pass.walkWithin t fuel q = .ok result' ∧ Related clusters events result result' := by
  induction fuel generalizing p q with
  | zero =>
    cases run
    exact ⟨q, rfl, related⟩
  | succ fuel ih =>
    obtain ⟨move, next, run⟩ := bind_eq_ok_iff.mp run
    rw [related.next? relates ready] at next
    rw [Pass.walkWithin, next]
    cases move with
    | none =>
      cases run
      exact ⟨q, rfl, related⟩
    | some move => exact ih (related.apply relates move) run

omit ready

theorem Related.forall₂_events (related : Related clusters events p q) (flushing : Bool) :
    List.Forall₂ events (p.events flushing) (q.events flushing) := by
  unfold Pass.events
  rw [relates.isEmpty related.event]
  split
  · rw [Series.toList_push, Series.toList_push]
    exact List.rel_append related.closed (.cons related.event .nil)
  · exact related.closed

end Walks

end Pass

namespace Matcher

variable {m m' q : Matcher}

theorem sortByEnd_related (relates : rule.Correspondence planes clusters events)
    (same : List.Forall₂ clusters queue queue') : List.Forall₂ clusters (sortByEnd queue) (sortByEnd queue') := by
  rw [sortByEnd, sortByEnd, stableSort_eq, stableSort_eq]
  exact forall₂_mergeSort same fun first second => decide_eq_decide.mpr (relates.ends first second)

/-- A flush makes events that correspond of clusters that do. -/
theorem flush_related (relates : m.rule.Correspondence m.planes clusters events) (rule : m'.rule = m.rule)
    (spanning : m'.planes = m.planes) (same : List.Forall₂ clusters m.unmatched m'.unmatched) (run : m.flush = .ok q) :
    ∃ q' closed closed', m'.flush = .ok q' ∧ q.events = m.events ++ closed ∧ q'.events = m'.events ++ closed' ∧
      List.Forall₂ events closed closed' := by
  have idle : m'.unmatched.isEmpty = m.unmatched.isEmpty := by
    rw [Bool.eq_iff_iff, List.isEmpty_iff_length_eq_zero, List.isEmpty_iff_length_eq_zero, same.length_eq]
  simp only [flush, matchQueue, Bool.not_true, Bool.false_and, Bool.or_false, idle] at run ⊢
  split at run
  · rename_i none
    cases run
    exact ⟨m', [], [], if_pos none, by simp, by simp, .nil⟩
  · rename_i some
    obtain ⟨maxSpan, spans, run⟩ := bind_eq_ok_iff.mp run
    obtain ⟨pass, walk, run⟩ := bind_eq_ok_iff.mp run
    cases run
    have queue := sortByEnd_related relates same
    have spans' : longestSpan (sortByEnd m'.unmatched) = .ok maxSpan := by
      rw [← spans, longestSpan, longestSpan, mapM_forall₂ (queue.imp fun _ _ same => relates.timeSpan same)]
    have terms : m'.terms true maxSpan = m.terms true maxSpan := by simp only [Matcher.terms, rule, Bool.true_or]
    have start : Pass.Related clusters events { queue := sortByEnd m.unmatched, event := Event.ofPlanes m.planes }
        { queue := sortByEnd m'.unmatched, event := Event.ofPlanes m.planes } := ⟨queue, relates.start, .nil, .nil⟩
    rw [Pass.walk, queue.length_eq] at walk
    obtain ⟨pass', walk', related⟩ := start.walkWithin (t := m.terms true maxSpan) relates (fun _ => rfl) walk
    have closed := related.forall₂_events (t := m.terms true maxSpan) relates true
    refine ⟨{ m' with
      unmatched := pass'.remaining true
      events := m'.events ++ pass'.events true
      eventCount := m'.eventCount + (pass'.events true).length
      rejected := m'.rejected + pass'.refused }, _, _, ?_, rfl, rfl, closed⟩
    rw [if_neg some, spans', spanning]
    show Pass.walk (m'.terms true maxSpan) _ >>= _ = _
    rw [terms, Pass.walk, walk']
    rfl

end Matcher

end EventFormation
