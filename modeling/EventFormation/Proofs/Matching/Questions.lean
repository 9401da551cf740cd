import EventFormation.Matching.Pass
import EventFormation.Proofs.Fault

namespace EventFormation.Pass

/-- The search for the closest cluster by a rule that may change from one question to the next. So many questions
were asked before, and it is told how many have been asked in the end. -/
def closestAsking (rules : Nat → JoinRule) (event : Event) (inRange eligible : Cluster → Bool) :
    Nat → Nat → Float → Option Nat → List Cluster → Except Fault (Option Nat × Nat)
  | asked, _, _, best, [] => .ok (best, asked)
  | asked, place, nearest, best, c :: rest =>
    if !inRange c then .ok (best, asked)
    else if eligible c then do
      match ← (rules asked).proximity event c with
      | none => closestAsking rules event inRange eligible (asked + 1) (place + 1) nearest best rest
      | some distance =>
        if distance < nearest then
          closestAsking rules event inRange eligible (asked + 1) (place + 1) distance (some place) rest
        else closestAsking rules event inRange eligible (asked + 1) (place + 1) nearest best rest
    else closestAsking rules event inRange eligible asked (place + 1) nearest best rest

/-- The next move by a rule that may change from one question to the next. The reach of the event is one of them. -/
def nextAsking? (t : Terms) (rules : Nat → JoinRule) (asked : Nat) (p : Pass) :
    Except Fault (Option Move × Nat) :=
  match p.queue with
  | [] => .ok (if t.flushing && !p.deferred.isEmpty then some .close else none, asked)
  | front :: rest =>
    if !t.ready front then .ok (none, asked)
    else if p.event.isEmpty then .ok (some .join, asked)
    else do
      match ← (rules asked).proximity p.event front with
      | none => return (some .close, asked + 1)
      | some nearest =>
        if p.planeOpen front then
          let limit := (rules (asked + 1)).reach p.event t.maxSpan
          match ← closestAsking rules p.event (fun c => c.timeEnd.toNat ≤ limit && t.ready c)
              (fun c => c.plane == front.plane) (asked + 2) 0 nearest none rest with
          | (some behind, asked) => return (some (.prefer behind), asked)
          | (none, asked) => return (some .join, asked)
        else return (some .join, asked + 1)

variable {rules : Nat → JoinRule} {rule : JoinRule} {event : Event} {inRange eligible : Cluster → Bool}
  {asked asked' place : Nat} {nearest : Float} {best : Option Nat} {queue : List Cluster} {t : Terms} {p : Pass}
  {fault : Fault}

/-- A rule that does not change is asked the same questions. -/
theorem closestAsking_const (rule : JoinRule) (event : Event) (inRange eligible : Cluster → Bool)
    (asked place : Nat) (nearest : Float) (best : Option Nat) (queue : List Cluster) :
    (closestAsking (fun _ => rule) event inRange eligible asked place nearest best queue).map Prod.fst =
      closest rule event inRange eligible place nearest best queue := by
  induction queue generalizing asked place nearest best with
  | nil => rfl
  | cons c rest ih =>
    unfold closestAsking closest
    split
    · rfl
    split
    · cases rule.proximity event c with
      | error fault => rfl
      | ok distance =>
        cases distance with
        | none => exact ih ..
        | some distance =>
          simp only [bind, Except.bind]
          split <;> exact ih ..
    · exact ih ..

theorem nextAsking?_const (t : Terms) (asked : Nat) (p : Pass) :
    (nextAsking? t (fun _ => t.rule) asked p).map Prod.fst = next? t p := by
  unfold nextAsking? next?
  cases p.queue with
  | nil => rfl
  | cons front rest =>
    dsimp only
    by_cases late : (!t.ready front) = true
    · rw [if_pos late, if_pos late]
      rfl
    rw [if_neg late, if_neg late]
    by_cases empty : p.event.isEmpty = true
    · rw [if_pos empty, if_pos empty]
      rfl
    rw [if_neg empty, if_neg empty]
    cases t.rule.proximity p.event front with
    | error fault => rfl
    | ok distance =>
      cases distance with
      | none => rfl
      | some nearest =>
        simp only [bind, Except.bind]
        by_cases opened : p.planeOpen front = true
        · rw [if_pos opened, if_pos opened, closer?,
            ← closestAsking_const t.rule p.event _ _ (asked + 2)]
          cases closestAsking (fun _ => t.rule) p.event _ _ (asked + 2) 0 nearest none rest with
          | error fault => rfl
          | ok found =>
            obtain ⟨place, asked⟩ := found
            cases place <;> rfl
        · rw [if_neg opened, if_neg opened]
          rfl

/-- What a search finds is in range, eligible and in the list that is searched, and was said to belong to the
event, whoever was asked. -/
theorem closestAsking_eq_some {found : Nat}
    (run : closestAsking rules event inRange eligible asked place nearest best queue = .ok (some found, asked')) :
    best = some found ∨
      ∃ behind c, found = place + behind ∧ queue[behind]? = some c ∧ inRange c = true ∧ eligible c = true ∧
        ∃ question distance, (rules question).proximity event c = .ok (some distance) := by
  induction queue generalizing asked place nearest best with
  | nil =>
    cases run
    exact Or.inl rfl
  | cons c rest ih =>
    have shift : (∃ behind d, found = place + 1 + behind ∧ rest[behind]? = some d ∧
        inRange d = true ∧ eligible d = true ∧
          ∃ question distance, (rules question).proximity event d = .ok (some distance)) →
        ∃ behind d, found = place + behind ∧ (c :: rest)[behind]? = some d ∧ inRange d = true ∧ eligible d = true ∧
          ∃ question distance, (rules question).proximity event d = .ok (some distance) := by
      rintro ⟨behind, d, there, atPlace, fits⟩
      exact ⟨behind + 1, d, by omega, by rwa [List.getElem?_cons_succ], fits⟩
    unfold closestAsking at run
    split at run
    · cases run
      exact Or.inl rfl
    rename_i near
    simp only [Bool.not_eq_true', Bool.not_eq_false] at near
    split at run
    · rename_i fits
      obtain ⟨distance, belongs, run⟩ := bind_eq_ok_iff.mp run
      cases distance with
      | none => exact (ih run).imp_right shift
      | some distance =>
        dsimp only at run
        split at run
        · rcases ih run with here | behind
          · cases here
            exact Or.inr ⟨0, c, rfl, rfl, near, fits, asked, distance, belongs⟩
          · exact Or.inr (shift behind)
        · exact (ih run).imp_right shift
    · exact (ih run).imp_right shift

/-- A search fails only where an answer does. -/
theorem closestAsking_eq_error
    (run : closestAsking rules event inRange eligible asked place nearest best queue = .error fault) :
    ∃ question, ∃ c ∈ queue, (rules question).proximity event c = .error fault := by
  induction queue generalizing asked place nearest best with
  | nil => cases run
  | cons c rest ih =>
    have later {asked place : Nat} {nearest : Float} {best : Option Nat}
        (run : closestAsking rules event inRange eligible asked place nearest best rest = .error fault) :
        ∃ question, ∃ d ∈ c :: rest, (rules question).proximity event d = .error fault := by
      obtain ⟨question, d, member, failed⟩ := ih run
      exact ⟨question, d, List.mem_cons_of_mem c member, failed⟩
    unfold closestAsking at run
    split at run
    · cases run
    split at run
    · rcases bind_eq_error_iff.mp run with failed | ⟨distance, _, run⟩
      · exact ⟨asked, c, List.mem_cons_self, failed⟩
      · cases distance with
        | none => exact later run
        | some distance =>
          dsimp only at run
          split at run <;> exact later run
    · exact later run

/-- The next move is unknown only where an answer is. -/
theorem nextAsking?_eq_error (run : nextAsking? t rules asked p = .error fault) :
    ∃ question, ∃ c ∈ p.queue, (rules question).proximity p.event c = .error fault := by
  unfold nextAsking? at run
  split at run
  · cases run
  rename_i front rest queue
  rw [queue]
  split at run
  · cases run
  split at run
  · cases run
  rcases bind_eq_error_iff.mp run with failed | ⟨distance, _, run⟩
  · exact ⟨asked, front, List.mem_cons_self, failed⟩
  cases distance with
  | none => cases run
  | some nearest =>
    dsimp only at run
    split at run
    · rcases bind_eq_error_iff.mp run with failed | ⟨found, _, run⟩
      · obtain ⟨question, c, member, failed⟩ := closestAsking_eq_error failed
        exact ⟨question, c, List.mem_cons_of_mem front member, failed⟩
      · obtain ⟨place, asked⟩ := found
        cases place <;> cases run
    · cases run

end EventFormation.Pass
