import EventFormation.Event
import EventFormation.Proofs.Cluster.Bounds
import EventFormation.Proofs.Cluster.Gathering

namespace EventFormation.Event

/-- Every slot keeps a faithful cluster of its own plane, and no plane has two slots. -/
structure Sound (e : Event) : Prop where
  distinct : e.planes.Nodup
  faithful : ∀ slot ∈ e.slots, slot.2.Faithful
  own : ∀ slot ∈ e.slots, ∀ hit ∈ slot.2.hits, hit.plane = slot.1

/-- The second event is the first one after a cluster has joined the slot of its plane. -/
def Joined (e : Event) (c : Cluster) (joined : Event) : Prop :=
  ∃ before plane held after, c.plane = some plane ∧ e.slots = before ++ (plane, held) :: after ∧
    joined.slots = before ++ (plane, (held.merge c).1) :: after

theorem hits_eq (e : Event) : e.hits = e.slots.flatMap (·.2.hits) := by
  simp [hits, clusters, List.flatMap_map]

@[simp] theorem hits_ofPlanes (planes : List UInt8) : (ofPlanes planes).hits = [] := by
  simp [hits]

theorem isEmpty_iff {e : Event} : e.isEmpty = true ↔ e.hits = [] := by
  simp [isEmpty, hits, Cluster.isEmpty_iff]

theorem Sound.ofPlanes {planes : List UInt8} (distinct : planes.Nodup) : (ofPlanes planes).Sound where
  distinct := by rwa [planes_ofPlanes]
  faithful := by
    intro slot member
    obtain ⟨plane, _, rfl⟩ := List.mem_map.mp member
    exact .empty
  own := by
    intro slot member
    obtain ⟨plane, _, rfl⟩ := List.mem_map.mp member
    simp

theorem slots_split {e : Event} {plane : UInt8} (tracked : plane ∈ e.planes) :
    ∃ before held after, e.slots = before ++ (plane, held) :: after ∧ plane ∉ before.map (·.1) := by
  obtain ⟨before, after, split, fresh⟩ := List.eq_append_cons_of_mem tracked
  obtain ⟨first, others, slots, same, rest⟩ := List.map_eq_append_iff.mp split
  obtain ⟨slot, last, others', atPlane, tail⟩ := List.map_eq_cons_iff.mp rest
  obtain ⟨slotPlane, held⟩ := slot
  cases atPlane
  exact ⟨first, held, last, by rw [slots, others'], by rwa [same]⟩

theorem modifySlots_split {before after : List (UInt8 × Cluster)} {plane : UInt8} {held : Cluster}
    (fresh : plane ∉ before.map (·.1)) (f : Cluster → Cluster) :
    modifySlots plane f (before ++ (plane, held) :: after) = before ++ (plane, f held) :: after := by
  induction before with
  | nil => simp [modifySlots]
  | cons slot rest ih =>
    simp only [List.map_cons, List.mem_cons, not_or] at fresh
    have other : ¬ (slot.1 == plane) = true := by simpa using fun same => fresh.1 same.symm
    simp only [List.cons_append, modifySlots, if_neg other, ih fresh.2]

theorem find?_split {before after : List (UInt8 × Cluster)} {plane : UInt8} {held : Cluster}
    (fresh : plane ∉ before.map (·.1)) :
    (before ++ (plane, held) :: after).find? (·.1 == plane) = some (plane, held) := by
  have none : before.find? (·.1 == plane) = none := by
    rw [List.find?_eq_none]
    intro slot member same
    exact fresh (List.mem_map.mpr ⟨slot, member, by simpa using same⟩)
  simp [List.find?_append, none]

theorem merge_of_tracked {e : Event} {c : Cluster} {plane : UInt8} (on : c.plane = some plane)
    (tracked : plane ∈ e.planes) :
    ∃ joined rest, e.merge c = some (joined, rest) ∧ e.Joined c joined := by
  obtain ⟨before, held, after, slots, fresh⟩ := slots_split tracked
  have found : e.slot? plane = some held := by simp [slot?, slots, find?_split fresh]
  refine ⟨e.modify plane fun _ => (held.merge c).1, (held.merge c).2, by simp [merge, on, found], ?_⟩
  exact ⟨before, plane, held, after, on, slots, by simp [modify, slots, modifySlots_split fresh]⟩

theorem joined_of_merge {e : Event} {c : Cluster} {merged : Event × Cluster} (merge : e.merge c = some merged) :
    e.Joined c merged.1 := by
  have known := merge
  unfold Event.merge at known
  split at known
  · cases known
  rename_i plane on
  split at known
  · cases known
  rename_i held found
  have tracked : plane ∈ e.planes := by
    obtain ⟨slot, inside, _⟩ := Option.map_eq_some_iff.mp found
    have same : slot.1 = plane := by simpa using List.find?_some inside
    exact same ▸ List.mem_map_of_mem (List.mem_of_find?_eq_some inside)
  obtain ⟨joined, rest, again, join⟩ := merge_of_tracked on tracked
  rw [merge] at again
  cases again
  exact join

theorem Joined.planes {e joined : Event} {c : Cluster} (join : e.Joined c joined) :
    joined.planes = e.planes := by
  obtain ⟨before, plane, held, after, _, slots, slots'⟩ := join
  simp [Event.planes, slots, slots']

theorem Joined.hits_perm {e joined : Event} {c : Cluster} (join : e.Joined c joined) :
    joined.hits.Perm (e.hits ++ c.hits) := by
  obtain ⟨before, plane, held, after, _, slots, slots'⟩ := join
  simp only [hits_eq, slots, slots', List.flatMap_append, List.flatMap_cons,
    Cluster.hits_merge_fst, List.append_assoc]
  exact (List.perm_append_comm.append_left held.hits).append_left _

theorem Joined.hits_ne_nil {e joined : Event} {c : Cluster} (join : e.Joined c joined)
    (some : c.hits ≠ []) : joined.hits ≠ [] := by
  intro none
  have both := join.hits_perm
  rw [none] at both
  exact some (List.append_eq_nil_iff.mp both.symm.eq_nil).2

/-- An event never loses hits to a cluster that it takes. -/
theorem merge_hits_ne_nil {e : Event} {c : Cluster} {merged : Event × Cluster} (merge : e.merge c = some merged)
    (some : e.hits ≠ []) : merged.1.hits ≠ [] := by
  intro none
  have both := (joined_of_merge merge).hits_perm
  rw [none] at both
  exact some (List.append_eq_nil_iff.mp both.symm.eq_nil).1

/-- A slot may be given another faithful cluster of its plane. -/
theorem Sound.replace {e e' : Event} {before after : List (UInt8 × Cluster)} {plane : UInt8} {held full : Cluster}
    (sound : e.Sound) (slots : e.slots = before ++ (plane, held) :: after)
    (slots' : e'.slots = before ++ (plane, full) :: after) (faithful : full.Faithful)
    (own : ∀ hit ∈ full.hits, hit.plane = plane) : e'.Sound := by
  have planes : e'.planes = e.planes := by simp [Event.planes, slots, slots']
  have kept : ∀ slot ∈ e'.slots, slot ∈ e.slots ∨ slot = (plane, full) := by
    intro slot member
    simp only [slots, slots', List.mem_append, List.mem_cons] at member ⊢
    tauto
  constructor
  · rw [planes]
    exact sound.distinct
  · intro slot member
    rcases kept slot member with old | rfl
    · exact sound.faithful slot old
    · exact faithful
  · intro slot member
    rcases kept slot member with old | rfl
    · exact sound.own slot old
    · exact own

theorem Joined.sound {e joined : Event} {c : Cluster} (join : e.Joined c joined) (sound : e.Sound)
    (faithful : c.Faithful) : joined.Sound := by
  obtain ⟨before, plane, held, after, on, slots, slots'⟩ := join
  have atSlot : (plane, held) ∈ e.slots := by simp [slots]
  refine sound.replace slots slots' ((sound.faithful _ atSlot).merge faithful) fun hit inside => ?_
  rw [Cluster.hits_merge_fst, List.mem_append] at inside
  rcases inside with earlier | new
  · exact sound.own _ atSlot hit earlier
  · exact ((faithful.plane plane).mp on).2 hit new

theorem mem_populated {e : Event} {slot : UInt8 × Cluster} :
    slot ∈ e.populated ↔ slot ∈ e.slots ∧ slot.2.hits ≠ [] := by
  simp [populated, Cluster.isEmpty_eq_false_iff]

/-- Planes that do not take part hold no hits. -/
theorem hits_eq_populated (e : Event) : e.hits = e.populated.flatMap (·.2.hits) := by
  rw [hits_eq, populated]
  induction e.slots with
  | nil => rfl
  | cons slot rest ih =>
    by_cases none : slot.2.hits = []
    · simp [none, ih, Cluster.isEmpty_iff.mpr none]
    · simp [ih, Cluster.isEmpty_eq_false_iff.mpr none]

theorem populated_eq_nil {e : Event} (none : e.hits = []) : e.populated = [] := by
  rw [hits_eq, List.flatMap_eq_nil_iff] at none
  rw [List.eq_nil_iff_forall_not_mem]
  intro slot member
  obtain ⟨inSlots, filled⟩ := mem_populated.mp member
  exact filled (none slot inSlots)

theorem drain_eq_nil {e : Event} (none : e.hits = []) : e.drain = [] := by
  rw [drain, populated_eq_nil none, List.map_nil]

theorem drain_ofPlanes (planes : List UInt8) : (ofPlanes planes).drain = [] := drain_eq_nil (hits_ofPlanes planes)

theorem hits_eq_drain (e : Event) : e.hits = e.drain.flatMap Cluster.hits := by
  rw [hits_eq_populated, drain, List.flatMap_map]

theorem drain_append (first second : List (UInt8 × Cluster)) :
    Event.drain ⟨first ++ second⟩ = Event.drain ⟨first⟩ ++ Event.drain ⟨second⟩ := by
  simp [drain, populated]

/-- A cluster that joins an event changes what is drained from the slot of its plane. -/
theorem Joined.drains {e joined : Event} {c : Cluster} (join : e.Joined c joined) (some : c.hits ≠ []) :
    ∃ before plane held after, c.plane = Option.some plane ∧ (plane, held) ∈ e.slots ∧
      e.drain = before ++ (Event.drain ⟨[(plane, held)]⟩ ++ after) ∧
      joined.drain = before ++ ([(held.merge c).1] ++ after) := by
  obtain ⟨before, plane, held, after, on, slots, slots'⟩ := join
  have split (slot : UInt8 × Cluster) : Event.drain ⟨before ++ slot :: after⟩ =
      Event.drain ⟨before⟩ ++ (Event.drain ⟨[slot]⟩ ++ Event.drain ⟨after⟩) := by
    rw [← drain_append, ← drain_append]
    rfl
  have filled : (held.merge c).1.isEmpty = false := by
    simp [Cluster.isEmpty_eq_false_iff, some]
  have slot : Event.drain ⟨[(plane, (held.merge c).1)]⟩ = [(held.merge c).1] := by
    simp [drain, populated, filled]
  refine ⟨Event.drain ⟨before⟩, plane, held, Event.drain ⟨after⟩, on, by simp [slots], ?_, ?_⟩
  · rw [← split, ← slots]
  · rw [← slot, ← split, ← slots']

/-- A cluster that joins an event is put behind the one in its slot, and every other slot stays. -/
theorem Joined.gathered {e joined : Event} {c : Cluster} (join : e.Joined c joined)
    (some : c.hits ≠ []) : Gathered (e.drain ++ [c]) joined.drain := by
  obtain ⟨before, plane, held, after, _, _, parts, wholes⟩ := join.drains some
  have slot : Gathered (Event.drain ⟨[(plane, held)]⟩ ++ [c]) [(held.merge c).1] := by
    apply Gathered.single
    have kept := hits_eq_drain ⟨[(plane, held)]⟩
    simp only [hits_eq, List.flatMap_cons, List.flatMap_nil, List.append_nil] at kept
    simp [← kept]
  rw [parts, wholes]
  have whole := (Gathered.refl before).append (slot.append (Gathered.refl after))
  refine whole.perm_left ?_
  simp only [List.append_assoc]
  exact (List.perm_append_comm.append_left _).append_left _

theorem Sound.slot?_eq {e : Event} (sound : e.Sound) {slot : UInt8 × Cluster} (member : slot ∈ e.slots) :
    e.slot? slot.1 = some slot.2 := by
  obtain ⟨before, after, slots⟩ := List.append_of_mem member
  have apart := sound.distinct
  rw [Event.planes, slots, List.map_append, List.map_cons, List.nodup_append] at apart
  have fresh : slot.1 ∉ before.map (·.1) := fun again => apart.2.2 _ again _ List.mem_cons_self rfl
  obtain ⟨plane, held⟩ := slot
  rw [slot?, slots, find?_split fresh]
  rfl

/-- A cluster that joins an event without one of its plane stays as it is. -/
theorem Joined.drain_perm {e joined : Event} {c : Cluster} (join : e.Joined c joined) (sound : e.Sound)
    (some : c.hits ≠ []) (opened : ∀ plane, c.plane = Option.some plane → e.cluster? plane = none) :
    joined.drain.Perm (e.drain ++ [c]) := by
  obtain ⟨before, plane, held, after, on, member, parts, wholes⟩ := join.drains some
  have empty : held.isEmpty = true := by
    have open' := opened plane on
    rw [cluster?, sound.slot?_eq member] at open'
    simpa [Option.filter] using open'
  have merged : (held.merge c).1 = c := by
    rw [Cluster.merge, Cluster.isEmpty_eq_false_iff.mpr some, empty]
    rfl
  have none : Event.drain ⟨[(plane, held)]⟩ = [] := by
    simp [drain, populated, empty]
  rw [parts, wholes, merged, none, List.nil_append, List.append_assoc]
  exact List.perm_append_comm.append_left before

/-- A cluster that joins an event with one of its plane becomes a part of that one. -/
theorem Joined.length_drain {e joined : Event} {c : Cluster} (join : e.Joined c joined) (sound : e.Sound)
    (some : c.hits ≠ []) (taken : ∀ plane, c.plane = Option.some plane → e.cluster? plane ≠ none) :
    joined.drain.length = e.drain.length := by
  obtain ⟨before, plane, held, after, on, member, parts, wholes⟩ := join.drains some
  have filled : held.isEmpty = false := by
    have closed := taken plane on
    rw [cluster?, sound.slot?_eq member] at closed
    simpa [Option.filter] using closed
  have slot : Event.drain ⟨[(plane, held)]⟩ = [held] := by
    simp [drain, populated, filled]
  rw [parts, wholes, slot]
  simp

/-- The ends of the planes taken together are those of all hits. -/
theorem Sound.times {e : Event} (sound : e.Sound) (some : e.hits ≠ []) :
    Extremes (e.hits.map (·.time)) e.timeStart e.timeEnd := by
  have inhabited : e.populated ≠ [] := by
    intro none
    exact some (by rw [hits_eq_populated, none, List.flatMap_nil])
  obtain ⟨start, atStart⟩ : ∃ start, (e.populated.map (·.2.timeStart)).min? = Option.some start :=
    Option.isSome_iff_exists.mp (List.isSome_min?_of_ne_nil (by simpa using inhabited))
  obtain ⟨stop, atStop⟩ : ∃ stop, (e.populated.map (·.2.timeEnd)).max? = Option.some stop :=
    Option.isSome_iff_exists.mp (List.isSome_max?_of_ne_nil (by simpa using inhabited))
  have each : ∀ slot ∈ e.populated,
      Extremes (slot.2.hits.map (·.time)) slot.2.timeStart slot.2.timeEnd := by
    intro slot member
    obtain ⟨inSlots, filled⟩ := mem_populated.mp member
    exact (sound.faithful slot inSlots).times filled
  have all := Extremes.flatMap each atStart atStop
  rw [← List.map_flatMap, ← hits_eq_populated] at all
  simpa [timeStart, timeEnd, atStart, atStop] using all

/-- An event starts and ends with its hits, in whatever order they came. -/
theorem Sound.times_unique {e e' : Event} (sound : e.Sound) (sound' : e'.Sound) (same : e.hits.Perm e'.hits) :
    e.timeStart = e'.timeStart ∧ e.timeEnd = e'.timeEnd := by
  by_cases none : e.hits = []
  · rw [none] at same
    simp [timeStart, timeEnd, populated_eq_nil none, populated_eq_nil same.symm.eq_nil]
  · have some : e'.hits ≠ [] := fun nothing => none (by rw [nothing] at same; exact same.eq_nil)
    exact (sound.times none).unique (sound'.times some) (same.map _)

end EventFormation.Event
