import EventFormation.Proofs.Matching.Polls

namespace EventFormation

namespace Pass

/-- The loop without any bound. So many iterations that continue lead from the beginning to a state, and so many
questions were asked on the way. -/
inductive Iterates (t : Terms) (rules : Nat → JoinRule) (start : Pass) : Nat → Nat → Pass → Prop
  | start : Iterates t rules start 0 0 start
  | next {count asked asked' p move} : Iterates t rules start count asked p →
      nextAsking? t rules asked p = .ok (some move, asked') → Iterates t rules start (count + 1) asked' (p.apply move)

variable {t : Terms} {rules : Nat → JoinRule} {start p q : Pass} {count asked asked' : Nat}

/-- Whatever is answered, no move is made that is not possible. -/
theorem nextAsking?_possible {move : Move} (waiting : p.deferred.toList ≠ [] → p.event.hits ≠ [])
    (run : nextAsking? t rules asked p = .ok (some move, asked')) : Possible p move := by
  unfold nextAsking? at run
  split at run
  · by_cases finish : (t.flushing && !p.deferred.isEmpty) = true
    · rw [if_pos finish] at run
      cases run
      simp only [Bool.and_eq_true, Bool.not_eq_true', Series.isEmpty_eq, List.isEmpty_eq_false_iff] at finish
      exact .close (waiting finish.2)
    · rw [if_neg finish] at run
      cases run
  rename_i front rest queue
  split at run
  · cases run
  split at run
  · cases run
    exact .join queue
  rename_i filled
  rw [Event.isEmpty_iff] at filled
  obtain ⟨distance, _, run⟩ := bind_eq_ok_iff.mp run
  cases distance with
  | none =>
    cases run
    exact .close filled
  | some nearest =>
    dsimp only at run
    split at run
    · obtain ⟨⟨place, later⟩, found, run⟩ := bind_eq_ok_iff.mp run
      cases place with
      | none =>
        cases run
        exact .join queue
      | some behind =>
        cases run
        rcases closestAsking_eq_some found with none | ⟨place, closer, there, atPlace, _⟩
        · cases none
        · rw [Nat.zero_add] at there
          exact .prefer queue (there ▸ atPlace) filled
    · cases run
      exact .join queue

/-- Every iteration that continues makes the weight less, and what is deferred has an event to wait for. -/
theorem Iterates.bounded (run : Iterates t rules start count asked p)
    (waiting : start.deferred.toList ≠ [] → start.event.hits ≠ []) :
    count + p.weight ≤ start.weight ∧ (p.deferred.toList ≠ [] → p.event.hits ≠ []) := by
  induction run with
  | start => exact ⟨by omega, waiting⟩
  | next _ next ih =>
    obtain ⟨bound, waiting⟩ := ih
    have possible := nextAsking?_possible waiting next
    have less := possible.weight_lt
    exact ⟨by omega, possible.waiting waiting⟩

/-- From every state the loop comes to an end, if only to an answer that fails. The weight bounds how far it is. -/
theorem Iterates.exists_end (run : Iterates t rules start count asked p)
    (waiting : start.deferred.toList ≠ [] → start.event.hits ≠ []) :
    ∃ count asked q, Iterates t rules start count asked q ∧
      ((∃ asked', nextAsking? t rules asked q = .ok (none, asked')) ∨
        ∃ fault, nextAsking? t rules asked q = .error fault) := by
  induction left : p.weight using Nat.strong_induction_on generalizing count asked p with
  | _ weight ih =>
    cases next : nextAsking? t rules asked p with
    | error fault => exact ⟨count, asked, p, run, .inr ⟨fault, next⟩⟩
    | ok answer =>
      obtain ⟨move, asked'⟩ := answer
      cases move with
      | none => exact ⟨count, asked, p, run, .inl ⟨asked', next⟩⟩
      | some move =>
        have less := (nextAsking?_possible (run.bounded waiting).2 next).weight_lt
        exact ih _ (by omega) (.next run next) rfl

/-- By a rule that does not change the loop goes the way of a walk, which is never stopped by its bound. -/
theorem iterates_of_walkWithin {fuel : Nat} (run : Iterates t (fun _ => t.rule) start count asked p)
    (waiting : start.deferred.toList ≠ [] → start.event.hits ≠ []) (enough : p.weight < fuel)
    (walk : walkWithin t fuel p = .ok q) :
    ∃ count asked asked', Iterates t (fun _ => t.rule) start count asked q ∧
      nextAsking? t (fun _ => t.rule) asked q = .ok (none, asked') := by
  induction fuel generalizing count asked p with
  | zero => omega
  | succ fuel ih =>
    obtain ⟨move, next, walk⟩ := bind_eq_ok_iff.mp walk
    rw [← nextAsking?_const t asked] at next
    obtain ⟨⟨answer, asked'⟩, asking, rfl⟩ := map_eq_ok_iff.mp next
    cases answer with
    | none =>
      cases walk
      exact ⟨count, asked, asked', run, asking⟩
    | some move =>
      have less := (nextAsking?_possible (run.bounded waiting).2 asking).weight_lt
      exact ih (.next run asking) (by omega) walk

end Pass

namespace Matcher

open Pass (Iterates nextAsking?)

/-- Whatever each question is answered, the loop goes on at most twice for each queued cluster, and no event that it
closes is empty. It is left, unless an answer fails. -/
theorem matching_terminates (m : Matcher) (flushing : Bool) (maxSpan : Nat) (rules : Nat → JoinRule) :
    let t := m.terms flushing maxSpan
    let start : Pass := { queue := sortByEnd m.unmatched, event := Event.ofPlanes m.planes }
    (∀ count asked p, Iterates t rules start count asked p → count ≤ 2 * m.unmatched.length ∧
      ∀ asked', nextAsking? t rules asked p = .ok (some .close, asked') → p.event.hits ≠ []) ∧
    (∃ count asked p, Iterates t rules start count asked p ∧
      ((∃ asked', nextAsking? t rules asked p = .ok (none, asked')) ∨
        ∃ question, ∃ c ∈ p.queue, ∃ fault, (rules question).proximity p.event c = .error fault)) ∧
    ∀ q, Pass.walk t start = .ok q → ∃ count asked asked', Iterates t (fun _ => m.rule) start count asked q ∧
      nextAsking? t (fun _ => m.rule) asked q = .ok (none, asked') := by
  intro t start
  have waiting : start.deferred.toList ≠ [] → start.event.hits ≠ [] := by simp [start]
  have weight : start.weight = 2 * m.unmatched.length := by
    simp [start, Pass.weight, Event.isEmpty_iff, (sortByEnd_perm m.unmatched).length_eq]
  refine ⟨fun count asked p run => ?_, ?_, fun q walk => ?_⟩
  · obtain ⟨bound, deferred⟩ := run.bounded waiting
    refine ⟨by omega, fun asked' next => ?_⟩
    cases Pass.nextAsking?_possible deferred next with
    | close filled => exact filled
  · have fresh : Iterates t rules start 0 0 start := .start
    obtain ⟨count, asked, p, run, ended | ⟨fault, failed⟩⟩ := fresh.exists_end waiting
    · exact ⟨count, asked, p, run, .inl ended⟩
    · obtain ⟨question, c, member, failed⟩ := Pass.nextAsking?_eq_error failed
      exact ⟨count, asked, p, run, .inr ⟨question, c, member, fault, failed⟩⟩
  · refine Pass.iterates_of_walkWithin .start waiting ?_ walk
    simp [start, Pass.weight, Event.isEmpty_iff]

/-- A rule that has nothing near at every second question, and everything in between. -/
theorem matching_terminates_fickle :
    let rules (question : Nat) : JoinRule :=
      if question % 2 = 0 then ⟨fun _ _ => .ok none, fun _ _ => 0⟩ else ⟨fun _ _ => .ok (some 0), fun _ _ => lastTick⟩
    let m : Matcher :=
      { rule := rules 0, latency := 0, minimumQueued := 0, progress := [(0, 0), (1, 0)]
        unmatched := [.ofHits [⟨1, 0, 4, 1⟩], .ofHits [⟨1, 1, 4, 1⟩], .ofHits [⟨2, 1, 4, 1⟩]] }
    ∃ count asked p, count ≤ 6 ∧
      Iterates (m.terms true 1) rules { queue := sortByEnd m.unmatched, event := Event.ofPlanes m.planes } count asked p ∧
      ∃ asked', nextAsking? (m.terms true 1) rules asked p = .ok (none, asked') := by
  intro rules m
  obtain ⟨bounded, ⟨count, asked, p, run, ended | ⟨question, c, _, fault, failed⟩⟩, _⟩ :=
    matching_terminates m true 1 rules
  · exact ⟨count, asked, p, (bounded count asked p run).1, run, ended⟩
  · dsimp only [rules] at failed
    split at failed <;> cases failed

end Matcher

end EventFormation
