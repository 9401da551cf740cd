import EventFormation.Proofs.Matching.Answers
import EventFormation.Proofs.Matching.Steps

namespace EventFormation.Pass

variable {t : Terms} {planes : List UInt8} {pool : List Hit} {p q : Pass} {fuel : Nat}

/-- What every move preserves holds at the end of a walk. -/
theorem walkWithin_induction (inv : Pass → Prop)
    (step : ∀ p move, inv p → Next t p move → inv (p.apply move))
    (start : inv p) (run : walkWithin t fuel p = .ok q) : inv q := by
  induction fuel generalizing p with
  | zero => cases run; exact start
  | succ fuel ih =>
    obtain ⟨move, next, run⟩ := bind_eq_ok_iff.mp run
    cases move with
    | none => cases run; exact start
    | some move => exact ih (step p move start (next?_sound next)) run

theorem walkWithin_over (sound : p.Sound planes) (enough : p.weight < fuel)
    (run : walkWithin t fuel p = .ok q) : next? t q = .ok none := by
  induction fuel generalizing p with
  | zero => omega
  | succ fuel ih =>
    obtain ⟨move, next, run⟩ := bind_eq_ok_iff.mp run
    cases move with
    | none => cases run; exact next
    | some move =>
      have step := (next?_sound next).step sound
      have fewer := ((next?_sound next).possible sound.waiting).weight_lt
      exact ih (step.sound sound) (by omega) run

theorem closest_total {rule : JoinRule} {event : Event} {inRange eligible : Cluster → Bool}
    {queue : List Cluster}
    (answers : ∀ c ∈ queue, ∃ distance, rule.proximity event c = .ok distance)
    (place : Nat) (nearest : Float) (best : Option Nat) :
    ∃ found, closest rule event inRange eligible place nearest best queue = .ok found := by
  induction queue generalizing place nearest best with
  | nil => exact ⟨best, rfl⟩
  | cons c rest ih =>
    have others := ih fun d member => answers d (List.mem_cons_of_mem c member)
    obtain ⟨distance, atFront⟩ := answers c List.mem_cons_self
    unfold closest
    split
    · exact ⟨best, rfl⟩
    split
    · rw [atFront]
      cases distance with
      | none => exact others _ _ _
      | some distance =>
        simp only [bind, Except.bind]
        split <;> exact others _ _ _
    · exact others _ _ _

/-- A walk goes on or ends properly where the rule decides on all that is queued. -/
theorem next?_answered (answer : ∀ c ∈ p.queue, ∃ distance, t.rule.proximity p.event c = .ok distance) :
    ∃ move, next? t p = .ok move := by
  unfold next?
  split
  · exact ⟨_, rfl⟩
  rename_i front rest queue
  rw [queue] at answer
  split
  · exact ⟨_, rfl⟩
  split
  · exact ⟨_, rfl⟩
  obtain ⟨distance, atFront⟩ := answer front List.mem_cons_self
  rw [atFront]
  cases distance with
  | none => exact ⟨_, rfl⟩
  | some nearest =>
    simp only [bind, Except.bind]
    split
    · have behind : ∃ found, closer? t p front rest nearest = .ok found :=
        closest_total (fun c member => answer c (List.mem_cons_of_mem front member)) 0 nearest none
      obtain ⟨found, atFound⟩ := behind
      rw [atFound]
      cases found <;> exact ⟨_, rfl⟩
    · exact ⟨_, rfl⟩

theorem Sound.answered (sound : p.Sound planes) (answers : t.rule.Answers pool)
    (inside : p.held.flatMap Cluster.hits ⊆ pool) :
    ∀ c ∈ p.queue, ∃ distance, t.rule.proximity p.event c = .ok distance := by
  intro c member
  have inEvent : p.event.hits ⊆ pool := by
    intro hit atHit
    rw [Event.hits_eq_drain] at atHit
    exact inside (by simp [held, atHit])
  refine answers p.event c sound.event (sound.queued c member).faithful inEvent fun hit atHit => ?_
  exact inside (List.mem_flatMap.mpr ⟨c, by simp [held, member], atHit⟩)

theorem next?_total (answers : t.rule.Answers pool) (sound : p.Sound planes)
    (inside : p.held.flatMap Cluster.hits ⊆ pool) : ∃ move, next? t p = .ok move :=
  next?_answered (sound.answered answers inside)

theorem walkWithin_total (answers : t.rule.Answers pool) (sound : p.Sound planes)
    (inside : p.held.flatMap Cluster.hits ⊆ pool) (fuel : Nat) :
    ∃ q, walkWithin t fuel p = .ok q := by
  induction fuel generalizing p with
  | zero => exact ⟨p, rfl⟩
  | succ fuel ih =>
    obtain ⟨move, next⟩ := next?_total answers sound inside
    unfold walkWithin
    rw [next]
    cases move with
    | none => exact ⟨p, rfl⟩
    | some move =>
      have step := (next?_sound next).step sound
      apply ih (step.sound sound)
      intro hit member
      exact inside ((step.gathered sound).hits_perm.symm.subset member)

/-- What a walk over a queue ends with. -/
structure Walked (t : Terms) (planes : List UInt8) (queue : List Cluster) (q : Pass) : Prop where
  sound : q.Sound planes
  gathered : Gathered queue q.held
  ended : next? t q = .ok none

theorem held_start (queue : List Cluster) :
    held { queue, event := Event.ofPlanes planes } = queue := by
  simp [held, Event.drain_ofPlanes]

theorem walk_walked {queue : List Cluster} (distinct : planes.Nodup)
    (tracked : ∀ c ∈ queue, c.Tracked planes)
    (run : walk t { queue, event := Event.ofPlanes planes } = .ok q) : Walked t planes queue q := by
  have start := Sound.start distinct tracked
  have both : q.Sound planes ∧ Gathered queue q.held := by
    refine walkWithin_induction (fun p => p.Sound planes ∧ Gathered queue p.held) ?_ ?_ run
    · intro p move ⟨sound, gathered⟩ next
      have step := next.step sound
      exact ⟨step.sound sound, gathered.trans (step.gathered sound)⟩
    · exact ⟨start, by rw [held_start]; exact .refl queue⟩
  refine ⟨both.1, both.2, walkWithin_over start ?_ run⟩
  simp [weight, Event.isEmpty_iff]

theorem walk_total {queue : List Cluster} (answers : t.rule.Answers pool) (distinct : planes.Nodup)
    (tracked : ∀ c ∈ queue, c.Tracked planes) (inside : queue.flatMap Cluster.hits ⊆ pool) :
    ∃ q, walk t { queue, event := Event.ofPlanes planes } = .ok q :=
  walkWithin_total answers (Sound.start distinct tracked) (by rwa [held_start]) _

end EventFormation.Pass
