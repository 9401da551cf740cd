import EventFormation.Proofs.Matching.Commands
import EventFormation.Proofs.Matching.Polls

namespace EventFormation

namespace Pass

/-- Every hit that a walk has put into an event comes from a ready cluster. -/
def Ready (t : Terms) (planes : List UInt8) (p : Pass) : Prop :=
  ∀ e ∈ p.event :: p.closed.toList, ∀ hit ∈ e.hits,
    ∃ c : Cluster, t.ready c = true ∧ c.Tracked planes ∧ hit ∈ c.hits

variable {t : Terms} {planes : List UInt8} {p q : Pass}

theorem Ready.start (t : Terms) (planes : List UInt8) (queue : List Cluster) :
    Ready t planes { queue, event := Event.ofPlanes planes } := by
  intro e member hit inside
  simp only [Series.toList_empty, List.mem_singleton] at member
  rw [member, Event.hits_ofPlanes] at inside
  cases inside

theorem Ready.join (ready : Ready t planes p) {c : Cluster} {joined : Event} (join : p.event.Joined c joined)
    (near : t.ready c = true) (tracked : c.Tracked planes) :
    ∀ e ∈ joined :: p.closed.toList, ∀ hit ∈ e.hits,
      ∃ c : Cluster, t.ready c = true ∧ c.Tracked planes ∧ hit ∈ c.hits := by
  intro e member hit inside
  rcases List.mem_cons.mp member with rfl | closed
  · rcases List.mem_append.mp (join.hits_perm.subset inside) with old | new
    · exact ready p.event List.mem_cons_self hit old
    · exact ⟨c, near, tracked, new⟩
  · exact ready e (List.mem_cons_of_mem _ closed) hit inside

theorem Step.keeps_ready (step : Step t p q) (sound : p.Sound planes) (ready : Ready t planes p) :
    Ready t planes q := by
  cases step with
  | close filled =>
    intro e member hit inside
    simp only [Pass.close, Series.toList_push, List.mem_cons, List.mem_append, List.not_mem_nil,
      or_false] at member
    rcases member with rfl | old | rfl
    · rw [Event.clear, Event.hits_ofPlanes] at inside
      cases inside
    · exact ready e (List.mem_cons_of_mem _ old) hit inside
    · exact ready _ List.mem_cons_self hit inside
  | @join front rest joined queue near join =>
    exact ready.join join near (sound.queued front (by simp [queue]))
  | @prefer front before closer after joined queue _ near filled join =>
    exact ready.join join near (sound.queued closer (by simp [queue]))

theorem walk_ready {queue : List Cluster} (distinct : planes.Nodup) (tracked : ∀ c ∈ queue, c.Tracked planes)
    (run : walk t { queue, event := Event.ofPlanes planes } = .ok q) : Ready t planes q := by
  refine (walkWithin_induction (fun p => p.Sound planes ∧ Ready t planes p) ?_ ?_ run).2
  · intro p move ⟨sound, ready⟩ next
    have step := next.step sound
    exact ⟨step.sound sound, step.keeps_ready sound ready⟩
  · exact ⟨.start distinct tracked, .start t planes queue⟩

end Pass

namespace Matcher

variable {m q : Matcher}

/-- No plane is behind the horizon. -/
theorem horizon_le {entry : UInt8 × UInt64} (member : entry ∈ m.progress) : m.horizon ≤ entry.2 := by
  have inside : entry.2 ∈ m.progress.map (·.2) := List.mem_map_of_mem member
  obtain ⟨least, atLeast⟩ := Option.isSome_iff_exists.mp
    (List.isSome_min?_of_ne_nil (List.ne_nil_of_mem inside))
  rw [horizon, atLeast]
  exact (List.min?_eq_some_iff.mp atLeast).2 _ inside

theorem exists_horizon (some : m.progress ≠ []) : ∃ entry ∈ m.progress, m.horizon = entry.2 := by
  obtain ⟨least, atLeast⟩ := Option.isSome_iff_exists.mp
    (List.isSome_min?_of_ne_nil (show m.progress.map (·.2) ≠ [] by simpa using some))
  obtain ⟨entry, member, rfl⟩ := List.mem_map.mp (List.min?_eq_some_iff.mp atLeast).1
  exact ⟨entry, member, by rw [horizon, atLeast]; rfl⟩

/-- The horizon is beyond a time if all planes are. -/
theorem lt_horizon_iff (some : m.progress ≠ []) (time : Nat) :
    time < m.horizon.toNat ↔ ∀ entry ∈ m.progress, time < entry.2.toNat := by
  constructor
  · intro before entry member
    have least := UInt64.le_iff_toNat_le.mp (horizon_le member)
    omega
  · intro before
    obtain ⟨entry, member, least⟩ := exists_horizon some
    rw [least]
    exact before entry member

theorem isReady_iff {c : Cluster} :
    m.isReady c = true ↔ c.timeEnd.toNat + m.latency.toNat < m.horizon.toNat := by
  simp only [isReady, ticksSince, gt_iff_lt, decide_eq_true_eq]
  omega

/-- A cluster that does not end later than a final one is final. -/
theorem isReady_of_le {c d : Cluster} (ready : m.isReady d = true) (before : c.timeEnd.toNat ≤ d.timeEnd.toNat) :
    m.isReady c = true := by
  rw [isReady_iff] at ready ⊢
  omega

/-- All that a walk for what is final has put into an event is final, merged or not. -/
theorem isReady_of_drained {queue : List Cluster} {maxSpan : Nat} {pass : Pass}
    (walked : Pass.Walked (m.terms false maxSpan) m.planes queue pass)
    (ready : Pass.Ready (m.terms false maxSpan) m.planes pass) {e : Event}
    (member : e ∈ pass.event :: pass.closed.toList) {c : Cluster} (inside : c ∈ e.drain) :
    m.isReady c = true := by
  have sound : e.Sound := by
    rcases List.mem_cons.mp member with rfl | closed
    · exact walked.sound.event
    · exact (walked.sound.closed e closed).1
  have tracked := sound.drain_tracked c inside
  obtain ⟨last, atLast, stop⟩ := tracked.faithful.exists_timeEnd tracked.hits_ne_nil
  have inEvent : last ∈ e.hits := by
    rw [Event.hits_eq_drain]
    exact List.mem_flatMap.mpr ⟨c, inside, atLast⟩
  obtain ⟨d, near, own, origin⟩ := ready e member last inEvent
  have ends := own.faithful.time_le_timeEnd origin
  rw [ready_terms, Bool.false_or] at near
  rw [stop, UInt64.le_iff_toNat_le] at ends
  exact isReady_of_le near ends

/-- An event is closed only once all planes are ahead of its end by more than the latency. -/
theorem Matched.ends_before_horizon (matched : Matched m false q) (distinct : m.planes.Nodup)
    (tracked : ∀ c ∈ m.unmatched, c.Tracked m.planes) (taken : m.events = []) :
    ∀ e ∈ q.events, e.timeEnd.toNat + m.latency.toNat < m.horizon.toNat := by
  cases matched with
  | skipped idle =>
    intro e member
    rw [taken] at member
    cases member
  | @walked maxSpan pass some enough spans run walked =>
    intro e member
    have closed : e ∈ pass.closed.toList := by simpa [taken, Pass.events] using member
    obtain ⟨sound, _, filled⟩ := walked.sound.closed e closed
    obtain ⟨last, atLast, stop⟩ := List.mem_map.mp (sound.times filled).high_mem
    rw [Event.hits_eq_drain] at atLast
    obtain ⟨c, inside, atHit⟩ := List.mem_flatMap.mp atLast
    have ends := (sound.drain_tracked c inside).faithful.time_le_timeEnd atHit
    have final := isReady_of_drained walked (Pass.walk_ready distinct (sortByEnd_tracked tracked) run)
      (List.mem_cons_of_mem _ closed) inside
    rw [isReady_iff] at final
    rw [stop, UInt64.le_iff_toNat_le] at ends
    omega

theorem foldl_max_mem (low : UInt64) (starts : List UInt64) : starts.foldl max low ∈ low :: starts := by
  induction starts generalizing low with
  | nil => exact List.mem_singleton_self low
  | cons start rest ih =>
    rcases List.mem_cons.mp (ih (max low start)) with same | later
    · rw [List.foldl_cons, same]
      rcases Std.MaxEqOr.max_eq_or low start with old | new
      · rw [old]
        exact List.mem_cons_self
      · rw [new]
        exact List.mem_cons_of_mem low List.mem_cons_self
    · exact List.mem_cons_of_mem low (List.mem_cons_of_mem start later)

theorem advance_nil (plane : UInt8) (progress : List (UInt8 × UInt64)) : advance plane [] progress = progress := by
  induction progress with
  | nil => rfl
  | cons entry rest ih =>
    unfold advance
    split
    · rfl
    · rw [ih]

theorem mem_advance {plane : UInt8} {starts : List UInt64} {progress : List (UInt8 × UInt64)}
    {entry : UInt8 × UInt64} (member : entry ∈ advance plane starts progress) :
    ∃ old, (entry.1, old) ∈ progress ∧ (entry.2 = old ∨ entry.1 = plane ∧ entry.2 ∈ starts) := by
  induction progress with
  | nil => cases member
  | cons first rest ih =>
    have later (inside : entry ∈ rest) : ∃ old, (entry.1, old) ∈ first :: rest ∧
        (entry.2 = old ∨ entry.1 = plane ∧ entry.2 ∈ starts) :=
      ⟨entry.2, List.mem_cons_of_mem first inside, Or.inl rfl⟩
    unfold advance at member
    split at member
    · rename_i own
      rcases List.mem_cons.mp member with rfl | inside
      · refine ⟨first.2, List.mem_cons_self, ?_⟩
        rcases List.mem_cons.mp (foldl_max_mem first.2 starts) with same | new
        · exact Or.inl same
        · exact Or.inr ⟨by simpa using own, new⟩
      · exact later inside
    · rcases List.mem_cons.mp member with rfl | inside
      · exact ⟨entry.2, List.mem_cons_self, Or.inl rfl⟩
      · obtain ⟨old, there, same⟩ := ih inside
        exact ⟨old, List.mem_cons_of_mem first there, same⟩

/-- The latest start of a plane changes only to the start of one of its clusters. -/
theorem mem_progress_insert {plane : UInt8} {clusters : List Cluster} {entry : UInt8 × UInt64}
    (member : entry ∈ (m.insert plane clusters).progress) :
    ∃ old, (entry.1, old) ∈ m.progress ∧ (entry.2 = old ∨
      entry.1 = plane ∧ ∃ c ∈ clusters, c.plane = some plane ∧ entry.2 = c.timeStart) := by
  unfold Matcher.insert at member
  split at member
  · rw [List.partition_eq_filter_filter] at member
    obtain ⟨old, there, same | ⟨own, start⟩⟩ := mem_advance member
    · exact ⟨old, there, Or.inl same⟩
    · obtain ⟨c, inside, atStart⟩ := List.mem_map.mp start
      obtain ⟨handed, on⟩ := List.mem_filter.mp inside
      exact ⟨old, there, Or.inr ⟨own, c, handed, by simpa using on, atStart.symm⟩⟩
  · exact ⟨entry.2, member, Or.inl rfl⟩

end Matcher

end EventFormation
