import EventFormation.Proofs.Matching.Walk
import Mathlib.Algebra.Order.Group.Multiset
import Mathlib.Tactic.Abel

namespace EventFormation.Pass

/-- What every move of a walk finds and leaves behind. Deferred clusters wait for the event
that they were passed over for. -/
structure Sound (planes : List UInt8) (p : Pass) : Prop where
  event : p.event.Sound
  spanning : p.event.planes = planes
  queued : ∀ c ∈ p.queue, c.Tracked planes
  deferred : ∀ c ∈ p.deferred.toList, c.Tracked planes
  waiting : p.deferred.toList ≠ [] → p.event.hits ≠ []
  closed : ∀ e ∈ p.closed.toList, e.Sound ∧ e.planes = planes ∧ e.hits ≠ []
  refused : p.refused = 0

/-- All that a move can do. -/
inductive Step (t : Terms) (p : Pass) : Pass → Prop
  | close : p.event.hits ≠ [] → Step t p p.close
  | join {front rest joined} : p.queue = front :: rest → t.ready front = true →
      p.event.Joined front joined → Step t p { p with queue := rest, event := joined }
  | prefer {front before closer after joined} : p.queue = front :: (before ++ closer :: after) →
      t.ready front = true → t.ready closer = true → p.event.hits ≠ [] →
      p.event.Joined closer joined →
      Step t p { p with
        queue := before ++ after, event := joined, deferred := p.deferred.push front }

/-- All clusters of a walk, wherever they are. -/
def held (p : Pass) : List Cluster :=
  p.queue ++ p.event.drain ++ p.deferred.toList ++ p.closed.toList.flatMap Event.drain

/-- Bounds the number of moves that are left. -/
def weight (p : Pass) : Nat :=
  2 * (p.queue.length + p.deferred.toList.length) + if p.event.isEmpty then 0 else 1

variable {t : Terms} {planes : List UInt8} {p q : Pass}

theorem Sound.start {queue : List Cluster} (distinct : planes.Nodup)
    (tracked : ∀ c ∈ queue, c.Tracked planes) :
    Sound planes { queue, event := Event.ofPlanes planes } where
  event := .ofPlanes distinct
  spanning := Event.planes_ofPlanes planes
  queued := tracked
  deferred := by simp
  waiting := by simp
  closed := by simp
  refused := rfl

theorem Sound.joins (sound : p.Sound planes) {c : Cluster} (tracked : c.Tracked planes) :
    ∃ joined rest, p.event.merge c = some (joined, rest) ∧ p.event.Joined c joined := by
  obtain ⟨plane, member, on⟩ := tracked.on
  exact Event.merge_of_tracked on (by rw [sound.spanning]; exact member)

theorem join_eq (sound : p.Sound planes) {front : Cluster} {rest : List Cluster} (queue : p.queue = front :: rest) :
    ∃ joined, p.event.Joined front joined ∧ p.join = { p with queue := rest, event := joined } := by
  obtain ⟨joined, left, merge, join⟩ := sound.joins (sound.queued front (by simp [queue]))
  exact ⟨joined, join, by simp only [Pass.join, queue, merge]⟩

theorem join_step (sound : p.Sound planes) {front : Cluster} {rest : List Cluster}
    (queue : p.queue = front :: rest) (ready : t.ready front = true) : Step t p p.join := by
  obtain ⟨joined, join, result⟩ := join_eq sound queue
  rw [result]
  exact .join queue ready join

theorem prefer_eq (sound : p.Sound planes) {front closer : Cluster} {rest : List Cluster} {behind : Nat}
    (queue : p.queue = front :: rest) (atPlace : rest[behind]? = some closer) :
    ∃ before after joined, rest = before ++ closer :: after ∧ p.event.Joined closer joined ∧
      p.prefer behind = { p with queue := before ++ after, event := joined, deferred := p.deferred.push front } := by
  obtain ⟨inside, value⟩ := List.getElem?_eq_some_iff.mp atPlace
  have split : rest = rest.take behind ++ closer :: rest.drop (behind + 1) := by
    rw [← value, List.getElem_cons_drop, List.take_append_drop]
  have member : closer ∈ p.queue := by
    rw [queue]
    exact List.mem_cons_of_mem front (List.mem_of_getElem? atPlace)
  obtain ⟨joined, left, merge, join⟩ := sound.joins (sound.queued closer member)
  refine ⟨_, _, joined, split, join, ?_⟩
  simp only [Pass.prefer, queue, atPlace, merge, List.eraseIdx_eq_take_drop_succ]

theorem prefer_step (sound : p.Sound planes) {front closer : Cluster} {rest : List Cluster} {behind : Nat}
    (queue : p.queue = front :: rest) (ready : t.ready front = true) (filled : p.event.hits ≠ [])
    (atPlace : rest[behind]? = some closer) (near : t.ready closer = true) : Step t p (p.prefer behind) := by
  obtain ⟨before, after, joined, split, join, result⟩ := prefer_eq sound queue atPlace
  rw [result]
  exact .prefer (split ▸ queue) ready near filled join

theorem Next.step {move : Move} (next : Next t p move) (sound : p.Sound planes) :
    Step t p (p.apply move) := by
  cases next with
  | finish queue flushing waiting => exact .close (sound.waiting waiting)
  | part queue ready filled apart => exact .close filled
  | seed queue ready empty => exact join_step sound queue ready
  | join queue ready filled near alone => exact join_step sound queue ready
  | prefer queue ready filled near opened found =>
    obtain ⟨closer, atPlace, final, _⟩ := closer?_eq_some found
    exact prefer_step sound queue ready filled atPlace final

theorem Step.sound (step : Step t p q) (sound : p.Sound planes) : q.Sound planes := by
  cases step with
  | close filled =>
    constructor
    · exact .ofPlanes sound.event.distinct
    · rw [Pass.close, Event.planes_clear, sound.spanning]
    · intro c member
      rcases List.mem_append.mp member with first | later
      · exact sound.deferred c first
      · exact sound.queued c later
    · simp [Pass.close]
    · simp [Pass.close]
    · intro e member
      simp only [Pass.close, Series.toList_push, List.mem_append, List.mem_singleton] at member
      rcases member with old | rfl
      · exact sound.closed e old
      · exact ⟨sound.event, sound.spanning, filled⟩
    · exact sound.refused
  | @join front rest joined queue ready join =>
    have tracked := sound.queued front (by simp [queue])
    refine ⟨join.sound sound.event tracked.faithful, join.planes.trans sound.spanning, ?_,
      sound.deferred, fun _ => join.hits_ne_nil tracked.hits_ne_nil, sound.closed, sound.refused⟩
    intro c member
    exact sound.queued c (by rw [queue]; exact List.mem_cons_of_mem front member)
  | @prefer front before closer after joined queue ready near filled join =>
    have tracked := sound.queued closer (by simp [queue])
    refine ⟨join.sound sound.event tracked.faithful, join.planes.trans sound.spanning, ?_, ?_,
      fun _ => join.hits_ne_nil tracked.hits_ne_nil, sound.closed, sound.refused⟩
    · intro c member
      apply sound.queued c
      rw [queue]
      rcases List.mem_append.mp member with first | later
      · exact List.mem_cons_of_mem _ (List.mem_append_left _ first)
      · exact List.mem_cons_of_mem _ (List.mem_append_right _ (List.mem_cons_of_mem _ later))
    · intro c member
      simp only [Series.toList_push, List.mem_append, List.mem_singleton] at member
      rcases member with old | rfl
      · exact sound.deferred c old
      · exact sound.queued c (by simp [queue])

/-- What a pass holds stays the same when the event is closed. -/
theorem held_close (p : Pass) : p.close.held.Perm p.held := by
  have cleared : p.event.clear.drain = [] := Event.drain_ofPlanes _
  rw [← Multiset.coe_eq_coe]
  simp only [held, Pass.close, cleared, Series.toList_push, Series.toList_empty, List.flatMap_append,
    List.flatMap_cons, List.flatMap_nil, List.append_nil, ← Multiset.coe_add]
  abel

/-- No move loses or splits a cluster. -/
theorem Step.gathered (step : Step t p q) (sound : p.Sound planes) : Gathered p.held q.held := by
  cases step with
  | close filled => exact (Gathered.refl p.held).perm_right (held_close p).symm
  | @join front rest joined queue ready join =>
    have tracked := sound.queued front (by simp [queue])
    have joins := join.gathered tracked.hits_ne_nil
    have others := Gathered.refl (rest ++ p.deferred.toList ++ p.closed.toList.flatMap Event.drain)
    refine ((joins.append others).perm_left ?_).perm_right ?_
    · rw [← Multiset.coe_eq_coe]
      simp only [held, queue, ← Multiset.coe_add, ← Multiset.cons_coe, ← Multiset.singleton_add]
      abel
    · rw [← Multiset.coe_eq_coe]
      simp only [held, ← Multiset.coe_add]
      abel
  | @prefer front before closer after joined queue ready near filled join =>
    have tracked := sound.queued closer (by simp [queue])
    have joins := join.gathered tracked.hits_ne_nil
    have others := Gathered.refl
      (before ++ after ++ p.deferred.toList ++ [front] ++ p.closed.toList.flatMap Event.drain)
    refine ((joins.append others).perm_left ?_).perm_right ?_
    · rw [← Multiset.coe_eq_coe]
      simp only [held, queue, ← Multiset.coe_add, ← Multiset.cons_coe, ← Multiset.singleton_add]
      abel
    · rw [← Multiset.coe_eq_coe]
      simp only [held, Series.toList_push, ← Multiset.coe_add]
      abel

/-- What a loop makes sure of before it makes a move. -/
inductive Possible (p : Pass) : Move → Prop
  | close : p.event.hits ≠ [] → Possible p .close
  | join {front rest} : p.queue = front :: rest → Possible p .join
  | prefer {front rest behind closer} : p.queue = front :: rest → rest[behind]? = some closer →
      p.event.hits ≠ [] → Possible p (.prefer behind)

variable {move : Move}

theorem Next.possible (next : Next t p move) (waiting : p.deferred.toList ≠ [] → p.event.hits ≠ []) :
    Possible p move := by
  cases next with
  | finish queue flushing deferred => exact .close (waiting deferred)
  | part queue ready filled apart => exact .close filled
  | seed queue ready empty => exact .join queue
  | join queue ready filled near alone => exact .join queue
  | prefer queue ready filled near opened found =>
    obtain ⟨closer, atPlace, _⟩ := closer?_eq_some found
    exact .prefer queue atPlace filled

/-- Closing an event takes as much off as it puts back, but then no event is open. -/
theorem Possible.weight_lt (possible : Possible p move) : (p.apply move).weight < p.weight := by
  cases possible with
  | close filled =>
    have opened : p.event.isEmpty ≠ true := fun none => filled (Event.isEmpty_iff.mp none)
    have closed : p.event.clear.isEmpty = true := Event.isEmpty_iff.mpr (Event.hits_ofPlanes _)
    rw [weight, weight, if_neg opened]
    simp only [apply, Pass.close, closed, if_true, List.length_append, Series.toList_empty, List.length_nil]
    omega
  | @join front rest queue =>
    simp only [apply, Pass.join, queue, weight, List.length_cons]
    cases p.event.merge front with
    | none =>
      dsimp only
      omega
    | some merged =>
      dsimp only
      split <;> omega
  | @prefer front rest behind closer queue atPlace filled =>
    have opened : p.event.isEmpty ≠ true := fun none => filled (Event.isEmpty_iff.mp none)
    obtain ⟨inside, _⟩ := List.getElem?_eq_some_iff.mp atPlace
    simp only [apply, Pass.prefer, queue, atPlace, weight, if_neg opened, List.length_cons,
      List.length_eraseIdx_of_lt inside, Series.toList_push, List.length_append, List.length_nil]
    cases p.event.merge closer with
    | none =>
      dsimp only
      split <;> omega
    | some merged =>
      dsimp only
      split <;> omega

/-- Only an open event is waited for, whether or not it takes the clusters that it is given. -/
theorem Possible.waiting (possible : Possible p move) (waiting : p.deferred.toList ≠ [] → p.event.hits ≠ []) :
    (p.apply move).deferred.toList ≠ [] → (p.apply move).event.hits ≠ [] := by
  cases possible with
  | close filled => simp [apply, Pass.close]
  | @join front rest queue =>
    simp only [apply, Pass.join, queue]
    cases merge : p.event.merge front with
    | none => exact waiting
    | some merged => exact fun deferred => Event.merge_hits_ne_nil merge (waiting deferred)
  | @prefer front rest behind closer queue atPlace filled =>
    intro _
    simp only [apply, Pass.prefer, queue, atPlace]
    cases merge : p.event.merge closer with
    | none => exact filled
    | some merged => exact Event.merge_hits_ne_nil merge filled

end EventFormation.Pass
