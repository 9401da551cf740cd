import EventFormation.Proofs.Event.Slots
import EventFormation.Proofs.Matching.Questions

namespace EventFormation

/-- A cluster that an event over these planes has a slot for. -/
structure Cluster.Tracked (planes : List UInt8) (c : Cluster) : Prop where
  faithful : c.Faithful
  on : ∃ plane ∈ planes, c.plane = some plane

theorem Cluster.Tracked.hits_ne_nil {planes : List UInt8} {c : Cluster} (tracked : c.Tracked planes) :
    c.hits ≠ [] := by
  obtain ⟨plane, _, on⟩ := tracked.on
  exact ((tracked.faithful.plane plane).mp on).1

namespace Pass

/-- The moves that a walk makes, with all that decides for each of them. -/
inductive Next (t : Terms) (p : Pass) : Move → Prop
  | finish : p.queue = [] → t.flushing = true → p.deferred.toList ≠ [] → Next t p .close
  | part {front rest} : p.queue = front :: rest → t.ready front = true → p.event.hits ≠ [] →
      t.rule.proximity p.event front = .ok none → Next t p .close
  | seed {front rest} : p.queue = front :: rest → t.ready front = true → p.event.hits = [] →
      Next t p .join
  | join {front rest nearest} : p.queue = front :: rest → t.ready front = true → p.event.hits ≠ [] →
      t.rule.proximity p.event front = .ok (some nearest) →
      (p.planeOpen front = true → closer? t p front rest nearest = .ok none) → Next t p .join
  | prefer {front rest nearest behind} : p.queue = front :: rest → t.ready front = true →
      p.event.hits ≠ [] → t.rule.proximity p.event front = .ok (some nearest) →
      p.planeOpen front = true → closer? t p front rest nearest = .ok (some behind) →
      Next t p (.prefer behind)

theorem next?_sound {t : Terms} {p : Pass} {move : Move} (run : next? t p = .ok (some move)) :
    Next t p move := by
  unfold next? at run
  split at run
  · rename_i queue
    by_cases finish : (t.flushing && !p.deferred.isEmpty) = true
    · rw [if_pos finish] at run
      cases run
      simp only [Bool.and_eq_true, Bool.not_eq_true', Series.isEmpty_eq, List.isEmpty_eq_false_iff] at finish
      exact .finish queue finish.1 finish.2
    · rw [if_neg finish] at run
      cases run
  · rename_i front rest queue
    split at run
    · cases run
    rename_i ready
    simp only [Bool.not_eq_true', Bool.not_eq_false] at ready
    split at run
    · rename_i empty
      cases run
      exact .seed queue ready (Event.isEmpty_iff.mp empty)
    rename_i filled
    rw [Event.isEmpty_iff] at filled
    obtain ⟨distance, near, run⟩ := bind_eq_ok_iff.mp run
    cases distance with
    | none => cases run; exact .part queue ready filled near
    | some nearest =>
      dsimp only at run
      split at run
      · rename_i opened
        obtain ⟨closer, found, run⟩ := bind_eq_ok_iff.mp run
        cases closer with
        | none => cases run; exact .join queue ready filled near fun _ => found
        | some behind => cases run; exact .prefer queue ready filled near opened found
      · rename_i closed
        cases run
        exact .join queue ready filled near fun opened => absurd opened closed

/-- A walk is over only where the queue is used up or its front is not ready. -/
theorem next?_eq_none {t : Terms} {p : Pass} (ended : next? t p = .ok none) :
    p.queue = [] ∧ (t.flushing = true → p.deferred.toList = []) ∨
      ∃ front rest, p.queue = front :: rest ∧ t.ready front = false := by
  unfold next? at ended
  split at ended
  · rename_i queue
    left
    refine ⟨queue, fun flushing => ?_⟩
    by_contra waiting
    have some : p.deferred.isEmpty = false := by simpa [Series.isEmpty_eq] using waiting
    simp [flushing, some] at ended
  · rename_i front rest queue
    right
    refine ⟨front, rest, queue, ?_⟩
    split at ended
    · rename_i late
      simpa using late
    split at ended
    · cases ended
    obtain ⟨distance, _, ended⟩ := bind_eq_ok_iff.mp ended
    cases distance with
    | none => cases ended
    | some nearest =>
      dsimp only at ended
      split at ended
      · obtain ⟨closer, _, ended⟩ := bind_eq_ok_iff.mp ended
        cases closer <;> cases ended
      · cases ended

/-- What a search finds is in range, eligible and in the list that is searched, and belongs to the event. -/
theorem closest_eq_some {rule : JoinRule} {event : Event} {inRange eligible : Cluster → Bool}
    {place found : Nat} {nearest : Float} {best : Option Nat} {queue : List Cluster}
    (run : closest rule event inRange eligible place nearest best queue = .ok (some found)) :
    best = some found ∨
      ∃ behind c, found = place + behind ∧ queue[behind]? = some c ∧ inRange c = true ∧ eligible c = true ∧
        ∃ distance, rule.proximity event c = .ok (some distance) := by
  rw [← closestAsking_const rule event inRange eligible 0] at run
  obtain ⟨⟨_, asked⟩, asking, rfl⟩ := map_eq_ok_iff.mp run
  refine (closestAsking_eq_some asking).imp_right ?_
  rintro ⟨behind, c, there, atPlace, near, fits, _, belongs⟩
  exact ⟨behind, c, there, atPlace, near, fits, belongs⟩

theorem closer?_eq_some {t : Terms} {p : Pass} {front : Cluster} {rest : List Cluster}
    {nearest : Float} {behind : Nat} (run : closer? t p front rest nearest = .ok (some behind)) :
    ∃ closer, rest[behind]? = some closer ∧ t.ready closer = true ∧ closer.plane = front.plane ∧
      ∃ distance, t.rule.proximity p.event closer = .ok (some distance) := by
  rcases closest_eq_some run with none | ⟨place, closer, there, atPlace, near, fits, belongs⟩
  · cases none
  · rw [Nat.zero_add] at there
    simp only [Bool.and_eq_true] at near
    exact ⟨closer, there ▸ atPlace, near.2, by simpa using fits, belongs⟩

end Pass

end EventFormation
