import EventFormation.Proofs.Matching.Visits

namespace EventFormation

namespace Event

theorem Sound.plane_drain {e : Event} (sound : e.Sound) :
    e.drain.map (·.plane) = e.populated.map fun slot => some slot.1 := by
  rw [drain, List.map_map]
  refine List.map_congr_left fun slot member => ?_
  obtain ⟨inSlots, filled⟩ := mem_populated.mp member
  exact ((sound.faithful slot inSlots).plane slot.1).mpr ⟨filled, sound.own slot inSlots⟩

theorem Sound.nodup_plane_drain {e : Event} (sound : e.Sound) : (e.drain.map (·.plane)).Nodup := by
  rw [sound.plane_drain]
  have apart : (e.populated.map (·.1)).Nodup :=
    sound.distinct.sublist ((List.filter_sublist (l := e.slots)).map (·.1))
  exact (List.map_map (f := (·.1)) (g := some) (l := e.populated)) ▸ apart.map (Option.some_injective UInt8)

/-- What is in an event is not on a plane that is open. -/
theorem Sound.plane_ne {e : Event} (sound : e.Sound) {c member : Cluster} (inside : member ∈ e.drain)
    (opened : ∃ plane, c.plane = some plane ∧ e.cluster? plane = none) : member.plane ≠ c.plane := by
  obtain ⟨slot, populated, rfl⟩ := List.mem_map.mp inside
  obtain ⟨inSlots, filled⟩ := mem_populated.mp populated
  obtain ⟨plane, on, none⟩ := opened
  intro same
  have own := ((sound.faithful slot inSlots).plane slot.1).mpr ⟨filled, sound.own slot inSlots⟩
  rw [same, on] at own
  cases own
  rw [cluster?, sound.slot?_eq inSlots, Option.filter_eq_none_iff] at none
  exact none slot.2 rfl (by simp [Cluster.isEmpty_eq_false_iff.mpr filled])

end Event

namespace Pass

/-- The cluster that a move takes into the event. -/
def joining (p : Pass) : Move → Option Cluster
  | .close => none
  | .join => p.queue.head?
  | .prefer behind => p.queue[behind + 1]?

/-- What a move that takes a cluster into the event changes. -/
structure Takes (p : Pass) (c : Cluster) (q : Pass) : Prop where
  member : c ∈ p.queue
  joined : p.event.Joined c q.event
  closed : q.closed = p.closed
  waiting : p.waiting.Perm (c :: q.waiting)

variable {t : Terms} {planes : List UInt8} {p q : Pass} {move : Move} {c : Cluster}

theorem Next.takes (next : Next t p move) (sound : p.Sound planes) (joins : p.joining move = some c) :
    p.Takes c (p.apply move) := by
  have front {front : Cluster} {rest : List Cluster} (queue : p.queue = front :: rest) : p.Takes front p.join := by
    obtain ⟨joined, join, result⟩ := join_eq sound queue
    rw [result]
    exact ⟨by simp [queue], join, rfl, by rw [waiting, waiting, queue]; rfl⟩
  cases next with
  | finish => cases joins
  | part => cases joins
  | seed queue =>
    rw [joining, queue] at joins
    cases joins
    exact front queue
  | join queue =>
    rw [joining, queue] at joins
    cases joins
    exact front queue
  | @prefer skipped rest _ behind queue =>
    rw [joining, queue, List.getElem?_cons_succ] at joins
    obtain ⟨before, after, joined, split, join, result⟩ := prefer_eq sound queue joins
    rw [apply, result]
    refine ⟨by simp [queue, split], join, rfl, ?_⟩
    rw [← Multiset.coe_eq_coe]
    simp only [waiting, queue, split, Series.toList_push, ← Multiset.coe_add, ← Multiset.cons_coe,
      ← Multiset.singleton_add, Multiset.coe_nil]
    abel

theorem Next.eq_close (next : Next t p move) (none : p.joining move = none) : move = .close := by
  cases next with
  | finish => rfl
  | part => rfl
  | seed queue => simp [joining, queue] at none
  | join queue => simp [joining, queue] at none
  | prefer queue _ _ _ _ found =>
    obtain ⟨closer, atPlace, _⟩ := closer?_eq_some found
    simp [joining, queue, atPlace] at none

/-- Nothing joins an event that it does not belong to. -/
theorem Next.belongs (next : Next t p move) (joins : p.joining move = some c) (filled : p.event.hits ≠ []) :
    ∃ distance, t.rule.proximity p.event c = .ok (some distance) := by
  cases next with
  | finish => cases joins
  | part => cases joins
  | seed _ _ empty => exact absurd empty filled
  | join queue _ _ near =>
    rw [joining, queue] at joins
    cases joins
    exact ⟨_, near⟩
  | prefer queue _ _ _ _ found =>
    obtain ⟨closer, atPlace, _, _, near⟩ := closer?_eq_some found
    rw [joining, queue, List.getElem?_cons_succ, atPlace] at joins
    cases joins
    exact near

theorem planeOpen_iff : p.planeOpen c = true ↔ ∃ plane, c.plane = some plane ∧ p.event.cluster? plane = none := by
  unfold planeOpen
  cases c.plane with
  | none => simp
  | some plane => simp

theorem planeOpen_of_empty (empty : p.event.hits = []) {plane : UInt8} (on : c.plane = some plane) :
    p.planeOpen c = true := by
  refine planeOpen_iff.mpr ⟨plane, on, ?_⟩
  rw [Event.cluster?, Option.filter_eq_none_iff]
  intro held found
  obtain ⟨slot, there, rfl⟩ := Option.map_eq_some_iff.mp found
  rw [Event.hits_eq, List.flatMap_eq_nil_iff] at empty
  simpa [Cluster.isEmpty_iff] using empty slot (List.mem_of_find?_eq_some there)

theorem Takes.drain_perm (takes : p.Takes c q) (sound : p.Sound planes) (opened : p.planeOpen c = true) :
    q.event.drain.Perm (p.event.drain ++ [c]) := by
  refine takes.joined.drain_perm sound.event (sound.queued c takes.member).hits_ne_nil fun plane on => ?_
  obtain ⟨plane', on', none⟩ := planeOpen_iff.mp opened
  rw [on] at on'
  cases on'
  exact none

theorem held_perm_waiting (p : Pass) :
    p.held.Perm (p.waiting ++ (p.event.drain ++ p.closed.toList.flatMap Event.drain)) := by
  rw [← Multiset.coe_eq_coe]
  simp only [held, waiting, ← Multiset.coe_add]
  abel

/-- What is held stays the same where clusters join open planes only. -/
theorem Next.held_perm (next : Next t p move) (sound : p.Sound planes)
    (opened : ∀ c, p.joining move = some c → p.planeOpen c = true) : (p.apply move).held.Perm p.held := by
  cases joins : p.joining move with
  | none =>
    rw [next.eq_close joins]
    exact held_close p
  | some c =>
    have takes := next.takes sound joins
    have event := Multiset.coe_eq_coe.mpr (takes.drain_perm sound (opened c joins))
    have before := Multiset.coe_eq_coe.mpr takes.waiting
    refine (held_perm_waiting _).trans (List.Perm.trans ?_ (held_perm_waiting p).symm)
    rw [← Multiset.coe_eq_coe]
    simp only [← Multiset.coe_add, ← Multiset.cons_coe, ← Multiset.singleton_add, Multiset.coe_nil] at event before ⊢
    rw [takes.closed, event, before]
    abel

theorem Takes.length_drain (takes : p.Takes c q) (sound : p.Sound planes) (taken : p.planeOpen c ≠ true) :
    q.event.drain.length = p.event.drain.length := by
  refine takes.joined.length_drain sound.event (sound.queued c takes.member).hits_ne_nil fun plane on none => ?_
  exact taken (planeOpen_iff.mpr ⟨plane, on, none⟩)

/-- There are fewer clusters just where one joins a plane that is taken. -/
theorem Next.length_held (next : Next t p move) (sound : p.Sound planes) :
    (p.apply move).held.length ≤ p.held.length ∧
      (p.held.length ≤ (p.apply move).held.length → ∀ c, p.joining move = some c → p.planeOpen c = true) := by
  by_cases opened : ∀ c, p.joining move = some c → p.planeOpen c = true
  · exact ⟨(next.held_perm sound opened).length_eq.le, fun _ => opened⟩
  · rw [Classical.not_forall] at opened
    obtain ⟨c, taken⟩ := opened
    rw [Classical.not_imp] at taken
    have takes := next.takes sound taken.1
    have event := takes.length_drain sound taken.2
    have before := takes.waiting.length_eq
    have fewer : (p.apply move).held.length < p.held.length := by
      rw [(held_perm_waiting _).length_eq, (held_perm_waiting p).length_eq]
      simp only [List.length_append, List.length_cons, takes.closed, event] at before ⊢
      omega
    exact ⟨fewer.le, fun least => absurd fewer (Nat.not_lt.mpr least)⟩

/-- On the way there are no more clusters, and closed events stay. -/
theorem Reaches.onward (reach : Reaches t p q) (sound : p.Sound planes) :
    q.held.length ≤ p.held.length ∧ p.closed.toList <+: q.closed.toList := by
  apply reach.preserves sound
  · exact ⟨Nat.le_refl _, List.prefix_refl _⟩
  · rintro r move good ⟨fewer, before⟩ next
    refine ⟨(next.length_held good).1.trans fewer, before.trans ?_⟩
    cases joins : r.joining move with
    | none =>
      rw [next.eq_close joins, apply, close, Series.toList_push]
      exact List.prefix_append _ _
    | some c =>
      simp only [(next.takes good joins).closed, List.prefix_refl]

end Pass

end EventFormation
