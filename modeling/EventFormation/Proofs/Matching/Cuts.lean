import EventFormation.Proofs.Matching.Delivery

namespace EventFormation

namespace Pass

variable {t : Terms} {p : Pass} {ready : Cluster → Bool}

theorem closest_congr {rule : JoinRule} {event : Event} {inRange inRange' eligible : Cluster → Bool}
    {queue : List Cluster} (same : ∀ c ∈ queue, inRange' c = inRange c) (place : Nat) (nearest : Float)
    (best : Option Nat) :
    closest rule event inRange' eligible place nearest best queue =
      closest rule event inRange eligible place nearest best queue := by
  rw [closest_eq_takeWhile rule event inRange', closest_eq_takeWhile rule event inRange]
  have cut : queue.takeWhile inRange' = queue.takeWhile inRange := by
    induction queue with
    | nil => rfl
    | cons c rest ih =>
      rw [List.takeWhile_cons, List.takeWhile_cons, same c List.mem_cons_self,
        ih fun d member => same d (List.mem_cons_of_mem c member)]
  rw [cut]

/-- The next move depends on the readiness of queued clusters only. -/
theorem next?_congr (same : ∀ c ∈ p.queue, ready c = t.ready c) : next? { t with ready } p = next? t p := by
  unfold next?
  split
  · rfl
  rename_i front rest queue
  rw [queue] at same
  have behind (nearest : Float) : closer? { t with ready } p front rest nearest = closer? t p front rest nearest :=
    closest_congr (fun c member => congrArg (_ && ·) (same c (List.mem_cons_of_mem front member))) 0 nearest none
  simp only [same front List.mem_cons_self, behind]

/-- A move brings no cluster into the queue that was not waiting. -/
theorem apply_subset (p : Pass) (move : Move) :
    (p.apply move).queue ++ (p.apply move).deferred.toList ⊆ p.queue ++ p.deferred.toList := by
  cases move with
  | close =>
    intro c member
    simp only [apply, Pass.close, Series.toList_empty, List.append_nil, List.mem_append] at member ⊢
    exact member.symm
  | join =>
    unfold apply Pass.join
    dsimp only
    split
    · exact List.Subset.refl _
    · rename_i front rest queue
      rw [queue]
      split <;> exact List.subset_cons_self front _
  | prefer behind =>
    unfold apply Pass.prefer
    dsimp only
    split
    · exact List.Subset.refl _
    rename_i front rest queue
    split
    · exact List.Subset.refl _
    intro c member
    rw [queue]
    simp only [Series.toList_push, List.mem_append, List.mem_cons, List.not_mem_nil, or_false] at member ⊢
    rcases member with inRest | deferred | rfl
    · exact Or.inl (Or.inr (List.mem_of_mem_eraseIdx inRest))
    · exact Or.inr deferred
    · exact Or.inl (Or.inl rfl)

/-- A walk depends on the readiness of the clusters that it starts with. -/
theorem walkWithin_congr (same : ∀ c ∈ p.queue ++ p.deferred.toList, ready c = t.ready c) (fuel : Nat) :
    walkWithin { t with ready } fuel p = walkWithin t fuel p := by
  induction fuel generalizing p with
  | zero => rfl
  | succ fuel ih =>
    have next := next?_congr fun c member => same c (List.mem_append_left _ member)
    unfold walkWithin
    rw [next]
    cases next? t p with
    | error fault => rfl
    | ok move =>
      cases move with
      | none => rfl
      | some move => exact ih fun c member => same c (p.apply_subset move member)

theorem walk_congr {queue : List Cluster} (same : ∀ c ∈ queue, ready c = t.ready c) (event : Event) :
    walk { t with ready } { queue, event } = walk t { queue, event } :=
  walkWithin_congr (by simpa using same) _

end Pass

namespace Matcher

/-- What an earlier run leaves in a matcher that holds nothing: how far its planes have come, and its counts. -/
structure Past where
  latest : UInt8 → UInt64
  eventCount : Nat
  rejected : Nat

/-- The same matcher with a past. -/
def after (m : Matcher) (past : Past) : Matcher :=
  { m with
    progress := m.progress.map fun entry => (entry.1, max (past.latest entry.1) entry.2)
    eventCount := past.eventCount + m.eventCount
    rejected := past.rejected + m.rejected }

variable {m : Matcher} {past : Past}

/-- A matcher that holds nothing is a new one with a past. -/
theorem eq_after_of_idle {planes : List UInt8} {latest : UInt8 → UInt64}
    (progress : m.progress = planes.map fun plane => (plane, latest plane)) (unmatched : m.unmatched = [])
    (events : m.events = []) :
    m = Matcher.after { m with progress := planes.map (·, 0), eventCount := 0, rejected := 0 }
      ⟨latest, m.eventCount, m.rejected⟩ := by
  obtain ⟨rule, latency, minimumQueued, _, _, _, eventCount, rejected⟩ := m
  subst progress unmatched events
  rw [after, List.map_map, mk.injEq]
  refine ⟨rfl, rfl, rfl, List.map_congr_left fun plane _ => congrArg (plane, ·) ?_, rfl, rfl, rfl, rfl⟩
  rw [Std.max_eq_if, if_pos UInt64.zero_le]

@[simp] theorem planes_after (m : Matcher) (past : Past) : (m.after past).planes = m.planes := by
  simp [after, planes, Function.comp_def]

theorem advance_after (latest : UInt8 → UInt64) (plane : UInt8) (starts : List UInt64)
    (progress : List (UInt8 × UInt64)) :
    advance plane starts (progress.map fun entry => (entry.1, max (latest entry.1) entry.2)) =
      (advance plane starts progress).map fun entry => (entry.1, max (latest entry.1) entry.2) := by
  induction progress with
  | nil => rfl
  | cons entry rest ih =>
    rw [List.map_cons, advance, advance]
    dsimp only
    split
    · rw [List.map_cons, List.foldl_assoc]
    · rw [List.map_cons, ih]

theorem insert_after (plane : UInt8) (clusters : List Cluster) :
    (m.after past).insert plane clusters = (m.insert plane clusters).after past := by
  unfold Matcher.insert
  rw [planes_after]
  split
  · simp only [after, advance_after, Nat.add_assoc]
  · simp only [after, Nat.add_assoc]

theorem insertAll_after (parts : List (UInt8 × List Cluster)) :
    (m.after past).insertAll parts = (m.insertAll parts).after past := by
  induction parts generalizing m with
  | nil => rfl
  | cons part rest ih =>
    show ((m.after past).insert part.1 part.2).insertAll rest = ((m.insert part.1 part.2).insertAll rest).after past
    rw [insert_after, ih]

/-- A cluster that no plane had passed is final with the past as soon as it is without: a plane is ahead of its
end only if the plane has gone on since. -/
theorem isReady_after {c : Cluster} (late : ∀ entry ∈ m.progress, past.latest entry.1 ≤ c.timeEnd) :
    (m.after past).isReady c = m.isReady c := by
  by_cases none : m.progress = []
  · have none' : (m.after past).progress = [] := by simp [after, none]
    simp only [isReady, horizon, none, none']
    rfl
  have none' : (m.after past).progress ≠ [] := by simpa [after] using none
  rw [Bool.eq_iff_iff, isReady_iff, isReady_iff, lt_horizon_iff none', lt_horizon_iff none]
  simp only [after, List.forall_mem_map]
  refine forall₂_congr fun entry member => ?_
  have before := UInt64.le_iff_toNat_le.mp (late entry member)
  rcases Std.MaxEqOr.max_eq_or (past.latest entry.1) entry.2 with old | new
  · have above : entry.2 ≤ max (past.latest entry.1) entry.2 := Std.right_le_max
    rw [old, UInt64.le_iff_toNat_le] at above
    rw [old]
    omega
  · rw [new]

/-- Matching does the same with a past, if no plane had passed any of the clusters. -/
theorem matchQueue_after (late : ∀ c ∈ m.unmatched, ∀ entry ∈ m.progress, past.latest entry.1 ≤ c.timeEnd)
    (flushing : Bool) : (m.after past).matchQueue flushing = (m.matchQueue flushing).map (·.after past) := by
  have walks (maxSpan : Nat) :
      Pass.walk ((m.after past).terms flushing maxSpan)
          { queue := sortByEnd m.unmatched, event := Event.ofPlanes (m.after past).planes } =
        Pass.walk (m.terms flushing maxSpan)
          { queue := sortByEnd m.unmatched, event := Event.ofPlanes m.planes } := by
    rw [planes_after]
    refine Pass.walk_congr (t := m.terms flushing maxSpan) (fun c member => ?_) _
    have ready := isReady_after (late c ((sortByEnd_perm m.unmatched).mem_iff.mp member))
    exact congrArg (flushing || ·) ready
  by_cases idle : (m.unmatched.isEmpty || !flushing && m.unmatched.length < m.minimumQueued) = true
  · have idle' : ((m.after past).unmatched.isEmpty ||
      !flushing && (m.after past).unmatched.length < (m.after past).minimumQueued) = true := idle
    rw [matchQueue, matchQueue, if_pos idle, if_pos idle']
    rfl
  · have idle' : ¬ ((m.after past).unmatched.isEmpty ||
      !flushing && (m.after past).unmatched.length < (m.after past).minimumQueued) = true := idle
    rw [matchQueue, matchQueue, if_neg idle, if_neg idle']
    show longestSpan (sortByEnd m.unmatched) >>= _ = (longestSpan (sortByEnd m.unmatched) >>= _).map _
    cases longestSpan (sortByEnd m.unmatched) with
    | error fault => rfl
    | ok maxSpan =>
      show Pass.walk ((m.after past).terms flushing maxSpan)
        { queue := sortByEnd m.unmatched, event := Event.ofPlanes (m.after past).planes } >>= _ = _
      rw [walks]
      show _ = (Pass.walk (m.terms flushing maxSpan) _ >>= _).map _
      cases Pass.walk (m.terms flushing maxSpan)
        { queue := sortByEnd m.unmatched, event := Event.ofPlanes m.planes } with
      | error fault => rfl
      | ok pass =>
        refine congrArg Except.ok ?_
        simp only [after, Nat.add_assoc]

end Matcher

end EventFormation
