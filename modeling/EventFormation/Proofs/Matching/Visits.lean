import EventFormation.Proofs.Matching.Overflow
import EventFormation.Proofs.Matching.Readiness

namespace EventFormation

namespace Pass

variable {t : Terms} {planes : List UInt8} {p q r : Pass}

/-- A walk ends in one of the states that it comes to. -/
theorem reaches_of_walkWithin {fuel : Nat} (run : walkWithin t fuel p = .ok q) : Reaches t p q := by
  induction fuel generalizing p with
  | zero =>
    cases run
    exact .refl
  | succ fuel ih =>
    obtain ⟨move, next, run⟩ := bind_eq_ok_iff.mp run
    cases move with
    | none =>
      cases run
      exact .refl
    | some move => exact .head ⟨move, next, rfl⟩ (ih run)

/-- There is one way on from every state, so what is reached lies before the end. -/
theorem Reaches.before_end (reach : Reaches t p q) (toEnd : Reaches t p r) (ended : next? t r = .ok none) :
    Reaches t q r := by
  have unique : Relator.RightUnique fun p q => ∃ move, next? t p = .ok (some move) ∧ q = p.apply move := by
    rintro a b c ⟨move, next, rfl⟩ ⟨move', next', rfl⟩
    rw [next] at next'
    cases next'
    rfl
  rcases Relation.ReflTransGen.total_of_right_unique unique reach toEnd with onward | back
  · exact onward
  · rcases Relation.ReflTransGen.cases_head back with rfl | ⟨_, ⟨move, next, _⟩, _⟩
    · exact .refl
    · rw [ended] at next
      cases next

/-- What every move preserves holds in all states that a walk comes to. -/
theorem Reaches.preserves {inv : Pass → Prop} (reach : Reaches t p q) (sound : p.Sound planes) (start : inv p)
    (step : ∀ p move, p.Sound planes → inv p → Next t p move → inv (p.apply move)) : inv q := by
  have both : q.Sound planes ∧ inv q := by
    induction reach with
    | refl => exact ⟨sound, start⟩
    | tail _ last ih =>
      obtain ⟨sound, holds⟩ := ih
      obtain ⟨move, next, rfl⟩ := last
      have next := next?_sound next
      exact ⟨(next.step sound).sound sound, step _ move sound holds next⟩
  exact both.2

end Pass

namespace Matcher

/-- Matching the queue comes to this state of its walk. -/
structure Visits (m : Matcher) (flushing : Bool) (maxSpan : Nat) (p : Pass) : Prop where
  filled : m.unmatched ≠ []
  enough : flushing = false → m.minimumQueued ≤ m.unmatched.length
  spans : longestSpan (sortByEnd m.unmatched) = .ok maxSpan
  reach : Pass.Reaches (m.terms flushing maxSpan)
    { queue := sortByEnd m.unmatched, event := Event.ofPlanes m.planes } p

variable {m q : Matcher} {flushing : Bool} {maxSpan : Nat} {p : Pass}

theorem Visits.sound (visit : m.Visits flushing maxSpan p) (distinct : m.planes.Nodup)
    (tracked : ∀ c ∈ m.unmatched, c.Tracked m.planes) :
    p.Sound m.planes ∧ p.waiting ⊆ m.unmatched ∧
      p.held.flatMap Cluster.hits ⊆ m.unmatched.flatMap Cluster.hits := by
  obtain ⟨sound, fewer, gathered⟩ := visit.reach.sound (.start distinct (sortByEnd_tracked tracked))
  rw [Pass.held_start] at gathered
  refine ⟨sound, fun c member => (sortByEnd_perm m.unmatched).subset ?_, ?_⟩
  · simpa [Pass.waiting] using fewer member
  · exact (((sortByEnd_perm m.unmatched).flatMap_right _).symm.trans gathered.hits_perm).symm.subset

theorem Matched.rule (matched : m.Matched flushing q) : q.rule = m.rule := by
  cases matched <;> rfl

/-- A new matcher has the rule that it is given, and is empty. -/
theorem ofRule_eq_ok {rule : JoinRule} {config : MatchConfig} (new : ofRule rule config = .ok m) :
    m.rule = rule ∧ m.unmatched = [] ∧ m.events = [] := by
  obtain ⟨_, _, made⟩ := bind_eq_ok_iff.mp new
  cases made
  exact ⟨rfl, rfl, rfl⟩

end Matcher

namespace Ledger

open Matcher (Command)

theorem Performed.rule {l q : Ledger} {command : Command} (performed : l.Performed command q) :
    q.matcher.rule = l.matcher.rule := by
  cases performed with
  | queued queued => exact queued.rule
  | matched _ matched => exact matched.rule
  | taken => rfl

section Timed

variable {config : MatchConfig} {before : List Command} {l q : Ledger}

/-- What no command upsets holds after all of them. -/
theorem Timed.performAll_induction {commands : List Command} (inv : List Command → Ledger → Prop)
    (timed : Timed config before l) (distinct : config.planes.Nodup)
    (faithful : ∀ c ∈ commands.flatMap (·.clusters), c.Faithful) (start : inv before l)
    (step : ∀ before command l q, Timed config before l → inv before l → l.Performed command q →
      inv (before ++ [command]) q)
    (run : l.performAll commands = .ok q) : inv (before ++ commands) q := by
  induction commands generalizing before l with
  | nil =>
    cases run
    rwa [List.append_nil]
  | cons command rest ih =>
    obtain ⟨next, first, run⟩ := performAll_cons_eq_ok.mp run
    have own : ∀ c ∈ command.clusters, c.Faithful := fun c member => faithful c (by simp [member])
    have moved := step before command l next timed start (timed.performed distinct own first)
    rw [List.append_cons]
    refine ih (timed.perform distinct own first) (fun c member => faithful c ?_) moved run
    rw [List.flatMap_cons]
    exact List.mem_append_right _ member

theorem Timed.performAll_rule {commands : List Command} (timed : Timed config before l) (distinct : config.planes.Nodup)
    (faithful : ∀ c ∈ commands.flatMap (·.clusters), c.Faithful) (run : l.performAll commands = .ok q) :
    q.matcher.rule = l.matcher.rule :=
  timed.performAll_induction (fun _ next => next.matcher.rule = l.matcher.rule) distinct faithful rfl
    (fun _ _ _ _ _ same performed => performed.rule.trans same) run

end Timed

/-- Whatever is done with a matcher, it comes to a state that is known from the clusters that it was given. -/
theorem exists_timed (policy : MatchPolicy) {config : MatchConfig} {commands : List Command}
    (valid : config.check = .ok ()) (built : ∀ c ∈ commands.flatMap (·.clusters), c.Built)
    (limited : ClockLimited ((commands.flatMap (·.clusters)).flatMap Cluster.hits)) :
    ∃ start l, Matcher.ofRule policy.rule config = .ok start ∧ performAll { matcher := start } commands = .ok l ∧
      Timed config commands l ∧ l.matcher.rule = policy.rule := by
  obtain ⟨start, new⟩ : ∃ start, Matcher.ofRule policy.rule config = .ok start := ⟨_, by rw [Matcher.ofRule, valid]; rfl⟩
  have faithful : ∀ c ∈ commands.flatMap (·.clusters), c.Faithful := fun c member => (built c member).faithful
  have distinct := (MatchConfig.planesChecked_of_check valid).distinct
  obtain ⟨rule, _, _⟩ := Matcher.ofRule_eq_ok new
  obtain ⟨_, timed⟩ := Timed.start new
  obtain ⟨l, run, _⟩ := timed.balanced.performAll distinct (by rw [rule]; exact policy.answers limited) limited commands
    faithful (List.Subset.refl _)
  exact ⟨start, l, new, run, timed.performAll distinct faithful run,
    (timed.performAll_rule distinct faithful run).trans rule⟩

end Ledger

end EventFormation
