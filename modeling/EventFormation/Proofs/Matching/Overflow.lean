import EventFormation.Proofs.Matching.Polls
import Mathlib.Logic.Relation

namespace EventFormation

theorem checkedSum_ticks_fault {first last : UInt64} (long : ¬ ticksSince first last < lastTick) :
    checkedSum (ticksSince first last) 1 = .error .sumOverflow := by
  refine if_neg ?_
  simp only [lastTick, wordCount] at long ⊢
  omega

theorem not_clockLimited_ne_nil {hits : List Hit} (long : ¬ ClockLimited hits) : hits ≠ [] := by
  rintro rfl
  exact long fun _ none => nomatch none

/-- What the whole clock shares with a stretch of time is that stretch. -/
theorem TimeSpan.overlap_long {a b : TimeSpan} (long : ¬ ticksSince a.first a.last < lastTick)
    (ordered : b.first ≤ b.last) : a.overlap b = checkedSum (ticksSince b.first b.last) 1 := by
  have bound := a.last.toNat_lt
  have top := b.last.toNat_lt
  simp only [ticksSince, lastTick] at long
  have start : max a.first b.first = b.first := by
    refine if_pos (UInt64.le_iff_toNat_le.mpr ?_)
    omega
  have stop : min a.last b.last = b.last := by
    by_cases below : a.last ≤ b.last
    · have same : a.last = b.last := by
        rw [UInt64.le_iff_toNat_le] at below
        rw [← UInt64.toNat_inj]
        omega
      exact (if_pos below).trans same
    · exact if_neg below
  simp only [overlap, start, stop]
  exact if_neg (UInt64.not_lt.mpr ordered)

section Spans

variable {e : Event} {c : Cluster}

theorem Cluster.Faithful.timeSpan_fault (faithful : c.Faithful) (long : ¬ ClockLimited c.hits) :
    c.timeSpan = .error .sumOverflow := by
  have filled := not_clockLimited_ne_nil long
  rw [(faithful.times filled).clockLimited_iff] at long
  rw [Cluster.timeSpan, Cluster.isEmpty_eq_false_iff.mpr filled]
  exact checkedSum_ticks_fault long

theorem Event.Sound.timeSpan_fault (sound : e.Sound) (long : ¬ ClockLimited e.hits) :
    e.timeSpan = .error .sumOverflow := by
  have filled := not_clockLimited_ne_nil long
  rw [(sound.times filled).clockLimited_iff] at long
  rw [Event.timeSpan, if_neg (fun none => filled (Event.isEmpty_iff.mp none))]
  exact checkedSum_ticks_fault long

theorem Event.Sound.overlapFraction_fault (sound : e.Sound) (long : ¬ ClockLimited e.hits) (faithful : c.Faithful)
    (filled : c.hits ≠ []) (limited : ClockLimited c.hits) : e.overlapFraction c = .error .sumOverflow := by
  have some := not_clockLimited_ne_nil long
  have times := faithful.times filled
  obtain ⟨hit, atHit⟩ := List.exists_mem_of_ne_nil c.hits filled
  have ordered : c.timeStart ≤ c.timeEnd :=
    UInt64.le_trans (times.low_le _ (List.mem_map_of_mem atHit)) (times.le_high _ (List.mem_map_of_mem atHit))
  obtain ⟨ticks, counted⟩ := checkedSum_ticks_total (times.clockLimited_iff.mp limited)
  have opened : (e.isEmpty || c.isEmpty) = false := by
    rw [Cluster.isEmpty_eq_false_iff.mpr filled, Bool.or_false, ← Bool.not_eq_true]
    exact fun none => some (Event.isEmpty_iff.mp none)
  have shared : e.timeOverlap c = .ok ticks := by
    rw [timeOverlap, opened]
    exact (TimeSpan.overlap_long ((sound.times some).clockLimited_iff.not.mp long) ordered).trans counted
  have part : c.timeSpan = .ok ticks := by
    rw [Cluster.timeSpan, Cluster.isEmpty_eq_false_iff.mpr filled]
    exact counted
  have positive : ticks ≠ 0 := by
    rw [(checkedSum_eq_ok_iff.mp counted).2]
    exact Nat.succ_ne_zero _
  rw [overlapFraction, shared, part, sound.timeSpan_fault long]
  exact if_neg positive

/-- A policy that asks for the length of an event fails where the clock cannot count it. -/
theorem MatchPolicy.proximity_fault {policy : MatchPolicy} (measures : policy.measuresEvents = true) (sound : e.Sound)
    (long : ¬ ClockLimited e.hits) (faithful : c.Faithful) (filled : c.hits ≠ []) (limited : ClockLimited c.hits) :
    policy.rule.proximity e c = .error .sumOverflow := by
  cases policy with
  | overlapFraction threshold maxGap =>
    show overlapProximity threshold maxGap e c = _
    rw [overlapProximity, sound.overlapFraction_fault long faithful filled limited]
    rfl
  | endProximity maxDelta => cases measures
  | gapProximity maxGap => cases measures
  | centerProximity maxDelta clusterTime => cases measures

/-- The length of the longest cluster is unknown as soon as one of them is too long to be counted. -/
theorem Matcher.longestSpan_eq_error_iff {clusters : List Cluster} {fault : Fault}
    (faithful : ∀ c ∈ clusters, c.Faithful) :
    longestSpan clusters = .error fault ↔ fault = .sumOverflow ∧ ∃ c ∈ clusters, ¬ ClockLimited c.hits := by
  by_cases long : ∃ c ∈ clusters, ¬ ClockLimited c.hits
  · have fails : longestSpan clusters = .error .sumOverflow := by
      have spans : clusters.mapM Cluster.timeSpan = .error .sumOverflow := by
        refine mapM_fault (fun c member => ?_) ?_
        · by_cases limited : ClockLimited c.hits
          · exact Or.inr ((faithful c member).timeSpan_total limited (List.Subset.refl _))
          · exact Or.inl ((faithful c member).timeSpan_fault limited)
        · obtain ⟨c, member, long⟩ := long
          exact ⟨c, member, (faithful c member).timeSpan_fault long⟩
      rw [longestSpan, spans]
      rfl
    rw [fails, Except.error.injEq, eq_comm]
    exact (and_iff_left long).symm
  · have limited : ∀ c ∈ clusters, ClockLimited c.hits := by
      intro c member
      by_contra whole
      exact long ⟨c, member, whole⟩
    obtain ⟨spans, run⟩ := mapM_total fun c member =>
      (faithful c member).timeSpan_total (limited c member) (List.Subset.refl _)
    rw [longestSpan, run]
    constructor
    · intro failed
      cases failed
    · rintro ⟨_, whole⟩
      exact absurd whole long

end Spans

namespace Pass

/-- The states that a walk comes to, move after move. -/
def Reaches (t : Terms) : Pass → Pass → Prop :=
  Relation.ReflTransGen fun p q => ∃ move, next? t p = .ok (some move) ∧ q = p.apply move

/-- Another cluster is to be compared with an event whose length counts and is too long to be counted. -/
def Stuck (policy : MatchPolicy) (t : Terms) (p : Pass) : Prop :=
  policy.measuresEvents = true ∧ ¬ ClockLimited p.event.hits ∧
    ∃ front rest, p.queue = front :: rest ∧ t.ready front = true

variable {t : Terms} {planes : List UInt8} {p q : Pass} {policy : MatchPolicy} {fault : Fault}

/-- The clusters that no event has taken yet. -/
def waiting (p : Pass) : List Cluster := p.queue ++ p.deferred.toList

theorem Step.waiting_subset (step : Step t p q) : q.waiting ⊆ p.waiting := by
  cases step with
  | close filled =>
    rw [waiting, waiting, Pass.close, Series.toList_empty, List.append_nil]
    exact List.append_subset.mpr ⟨List.subset_append_right _ _, List.subset_append_left _ _⟩
  | @join front rest joined queue ready join =>
    rw [waiting, waiting, queue]
    exact List.subset_cons_self _ _
  | @prefer front before closer after joined queue ready near filled join =>
    intro c member
    simp only [waiting, queue, Series.toList_push, List.mem_append, List.mem_cons, List.not_mem_nil, or_false]
      at member ⊢
    tauto

theorem Reaches.sound (reach : Reaches t p q) (sound : p.Sound planes) :
    q.Sound planes ∧ q.waiting ⊆ p.waiting ∧ Gathered p.held q.held := by
  induction reach with
  | refl => exact ⟨sound, List.Subset.refl _, .refl _⟩
  | tail _ step ih =>
    obtain ⟨sound, fewer, gathered⟩ := ih
    obtain ⟨move, next, rfl⟩ := step
    have step := (next?_sound next).step sound
    exact ⟨step.sound sound, List.Subset.trans step.waiting_subset fewer, gathered.trans (step.gathered sound)⟩

/-- A walk among clusters that the clock can count has no next move just where it is stuck. -/
theorem next?_eq_error_iff (rule : t.rule = policy.rule) (sound : p.Sound planes)
    (limited : ∀ c ∈ p.queue, ClockLimited c.hits) :
    next? t p = .error fault ↔ fault = .sumOverflow ∧ p.Stuck policy t := by
  by_cases stuck : p.Stuck policy t
  · obtain ⟨measures, long, front, rest, queue, ready⟩ := stuck
    have atFront : front ∈ p.queue := by simp [queue]
    have tracked := sound.queued front atFront
    have empty : p.event.isEmpty = false := by
      rw [← Bool.not_eq_true]
      exact fun none => not_clockLimited_ne_nil long (Event.isEmpty_iff.mp none)
    have fails : next? t p = .error .sumOverflow := by
      unfold next?
      simp only [queue, ready, empty, rule, MatchPolicy.proximity_fault measures sound.event long tracked.faithful
        tracked.hits_ne_nil (limited front atFront)]
      rfl
    rw [fails, Except.error.injEq, eq_comm]
    exact (and_iff_left ⟨measures, long, front, rest, queue, ready⟩).symm
  · have goes : ∃ move, next? t p = .ok move := by
      by_cases counts : policy.measuresEvents = true → ClockLimited p.event.hits
      · refine next?_answered fun c member => ?_
        rw [rule]
        exact policy.proximity_total sound.event (sound.queued c member).faithful counts (limited c member)
      · rw [Classical.not_imp] at counts
        unfold next?
        split
        · exact ⟨_, rfl⟩
        · rename_i front rest queue
          have late : t.ready front = false := by
            rw [← Bool.not_eq_true]
            exact fun ready => stuck ⟨counts.1, counts.2, front, rest, queue, ready⟩
          rw [late]
          exact ⟨_, rfl⟩
    obtain ⟨move, next⟩ := goes
    rw [next]
    constructor
    · intro failed
      cases failed
    · rintro ⟨_, there⟩
      exact absurd there stuck

/-- A walk with enough fuel fails where it comes to a state that has no next move. -/
theorem walkWithin_eq_error_iff {fuel : Nat} (sound : p.Sound planes) (enough : p.weight < fuel) :
    walkWithin t fuel p = .error fault ↔ ∃ q, Reaches t p q ∧ next? t q = .error fault := by
  induction fuel generalizing p with
  | zero => omega
  | succ fuel ih =>
    unfold walkWithin
    cases next : next? t p with
    | error reason =>
      constructor
      · intro failed
        cases failed
        exact ⟨p, .refl, next⟩
      · rintro ⟨q, reach, failed⟩
        rcases Relation.ReflTransGen.cases_head reach with rfl | ⟨_, ⟨move, step, _⟩, _⟩
        · rw [next] at failed
          cases failed
          rfl
        · rw [next] at step
          cases step
    | ok answer =>
      cases answer with
      | none =>
        constructor
        · intro failed
          cases failed
        · rintro ⟨q, reach, failed⟩
          rcases Relation.ReflTransGen.cases_head reach with rfl | ⟨_, ⟨move, step, _⟩, _⟩
          · rw [next] at failed
            cases failed
          · rw [next] at step
            cases step
      | some move =>
        have step := (next?_sound next).step sound
        have fewer := ((next?_sound next).possible sound.waiting).weight_lt
        refine (ih (step.sound sound) (by omega)).trans ?_
        constructor
        · rintro ⟨q, reach, failed⟩
          exact ⟨q, .head ⟨move, next, rfl⟩ reach, failed⟩
        · rintro ⟨q, reach, failed⟩
          rcases Relation.ReflTransGen.cases_head reach with rfl | ⟨_, ⟨other, first, rfl⟩, rest⟩
          · rw [next] at failed
            cases failed
          · rw [next] at first
            cases first
            exact ⟨q, rest, failed⟩

/-- A walk among clusters that the clock can count fails just where it gets stuck. -/
theorem walk_eq_error_iff {queue : List Cluster} (rule : t.rule = policy.rule) (distinct : planes.Nodup)
    (tracked : ∀ c ∈ queue, c.Tracked planes) (limited : ∀ c ∈ queue, ClockLimited c.hits) :
    walk t { queue, event := Event.ofPlanes planes } = .error fault ↔
      fault = .sumOverflow ∧
        ∃ p, Reaches t { queue, event := Event.ofPlanes planes } p ∧ p.Stuck policy t := by
  have start := Sound.start distinct tracked
  refine (walkWithin_eq_error_iff start (by simp [weight, Event.isEmpty_iff])).trans ?_
  have fails {p : Pass} (reach : Reaches t { queue, event := Event.ofPlanes planes } p) :
      next? t p = .error fault ↔ fault = .sumOverflow ∧ p.Stuck policy t := by
    obtain ⟨sound, fewer, _⟩ := reach.sound start
    refine next?_eq_error_iff rule sound fun c member => limited c ?_
    simpa [waiting] using fewer (List.mem_append_left _ member)
  constructor
  · rintro ⟨p, reach, failed⟩
    obtain ⟨reason, stuck⟩ := (fails reach).mp failed
    exact ⟨reason, p, reach, stuck⟩
  · rintro ⟨reason, p, reach, stuck⟩
    exact ⟨p, reach, (fails reach).mpr ⟨reason, stuck⟩⟩

end Pass

namespace Matcher

variable {m : Matcher} {policy : MatchPolicy} {flushing : Bool} {fault : Fault}

/-- Clusters are to be matched, and a length is asked for that the clock cannot count: that of a queued cluster, or
that of an event in progress when another cluster is compared with it. -/
def Overflows (policy : MatchPolicy) (flushing : Bool) (m : Matcher) : Prop :=
  m.unmatched ≠ [] ∧ (flushing = false → m.minimumQueued ≤ m.unmatched.length) ∧
    ((∃ c ∈ m.unmatched, ¬ ClockLimited c.hits) ∨
      ∃ maxSpan p, longestSpan (sortByEnd m.unmatched) = .ok maxSpan ∧
        Pass.Reaches (m.terms flushing maxSpan)
          { queue := sortByEnd m.unmatched, event := Event.ofPlanes m.planes } p ∧
        p.Stuck policy (m.terms flushing maxSpan))

theorem matchQueue_eq_error_iff (rule : m.rule = policy.rule) (distinct : m.planes.Nodup)
    (tracked : ∀ c ∈ m.unmatched, c.Tracked m.planes) :
    m.matchQueue flushing = .error fault ↔ fault = .sumOverflow ∧ m.Overflows policy flushing := by
  have sorted := sortByEnd_tracked tracked
  have spans := @longestSpan_eq_error_iff (sortByEnd m.unmatched) fault fun c member => (sorted c member).faithful
  simp only [(sortByEnd_perm m.unmatched).mem_iff] at spans
  have walks {maxSpan : Nat} (span : longestSpan (sortByEnd m.unmatched) = .ok maxSpan) :=
    @Pass.walk_eq_error_iff (m.terms flushing maxSpan) m.planes policy fault _ rule distinct sorted fun c member => by
      by_contra long
      have fails := (longestSpan_eq_error_iff fun c member => (sorted c member).faithful).mpr ⟨rfl, c, member, long⟩
      rw [span] at fails
      cases fails
  unfold matchQueue
  split
  · rename_i idle
    simp only [Bool.or_eq_true, List.isEmpty_iff, Bool.and_eq_true, Bool.not_eq_true', decide_eq_true_eq] at idle
    constructor
    · intro failed
      cases failed
    · rintro ⟨_, some, enough, _⟩
      rcases idle with none | ⟨polling, few⟩
      · exact absurd none some
      · exact absurd (enough polling) (Nat.not_le.mpr few)
  · rename_i busy
    simp only [Bool.or_eq_true, List.isEmpty_iff, Bool.and_eq_true, Bool.not_eq_true', decide_eq_true_eq, not_or,
      not_and, Nat.not_lt] at busy
    rw [bind_eq_error_iff]
    constructor
    · rintro (failed | ⟨maxSpan, span, failed⟩)
      · obtain ⟨reason, long⟩ := spans.mp failed
        exact ⟨reason, busy.1, busy.2, Or.inl long⟩
      · rcases bind_eq_error_iff.mp failed with failed | ⟨pass, _, failed⟩
        · obtain ⟨reason, p, reach, stuck⟩ := (walks span).mp failed
          exact ⟨reason, busy.1, busy.2, Or.inr ⟨maxSpan, p, span, reach, stuck⟩⟩
        · cases failed
    · rintro ⟨reason, _, _, long | ⟨maxSpan, p, span, reach, stuck⟩⟩
      · exact Or.inl (spans.mpr ⟨reason, long⟩)
      · exact Or.inr ⟨maxSpan, span, bind_eq_error_iff.mpr (Or.inl ((walks span).mpr ⟨reason, p, reach, stuck⟩))⟩

/-- A matcher only fails if its hits reach from the first to the last tick of the clock. -/
theorem Overflows.long (overflows : m.Overflows policy flushing) (distinct : m.planes.Nodup)
    (tracked : ∀ c ∈ m.unmatched, c.Tracked m.planes) : ¬ ClockLimited (m.unmatched.flatMap Cluster.hits) := by
  obtain ⟨_, _, ⟨c, member, long⟩ | ⟨maxSpan, p, _, reach, _, long, _⟩⟩ := overflows
  · exact fun limited => long (limited.subset fun hit atHit => List.mem_flatMap.mpr ⟨c, member, atHit⟩)
  · obtain ⟨_, _, gathered⟩ := reach.sound (.start distinct (sortByEnd_tracked tracked))
    rw [Pass.held_start] at gathered
    refine fun limited => long (limited.subset fun hit atHit => ?_)
    refine (((sortByEnd_perm m.unmatched).flatMap_right _).symm.trans gathered.hits_perm).symm.subset ?_
    rw [Event.hits_eq_drain] at atHit
    simp [Pass.held, atHit]

end Matcher

end EventFormation
