import EventFormation.Proofs.Event.Delays
import EventFormation.Proofs.Matching.Simulation

namespace EventFormation

variable {ticks : Int} {planes : List UInt8} {c d : Cluster} {e e' : Event}

/-- Two tracked clusters. The second one has the hits of the first one, in their order, but later. -/
structure Cluster.Delays (ticks : Int) (planes : List UInt8) (c d : Cluster) : Prop where
  left : c.Tracked planes
  right : d.Tracked planes
  hits : List.Forall₂ (Hit.Delays ticks) c.hits d.hits

theorem ticksApart_delay {a b a' b' : UInt64} (first : Delay ticks a b) (second : Delay ticks a' b') :
    ticksApart a a' = ticksApart b b' := by
  rw [ticksApart, ticksApart, first.ticksSince_eq second, second.ticksSince_eq first]

/-- It does not matter that the last reading of the clock stands for all later ones. -/
theorem le_readingAfter_iff {time later : UInt64} {span : Nat} :
    later.toNat ≤ readingAfter time span ↔ later.toNat ≤ time.toNat + span := by
  have word := later.toNat_lt
  simp only [readingAfter, lastTick]
  omega

theorem readingAfter_delay {a b a' b' : UInt64} (first : Delay ticks a b) (second : Delay ticks a' b') (span : Nat) :
    a'.toNat ≤ readingAfter a span ↔ b'.toNat ≤ readingAfter b span := by
  rw [le_readingAfter_iff, le_readingAfter_iff]
  simp only [Delay] at first second
  omega

namespace Cluster.Delays

theorem plane (later : Delays ticks planes c d) : c.plane = d.plane :=
  (later.left.faithful.delay later.right.faithful later.hits).2.1

theorem isEmpty (later : Delays ticks planes c d) : c.isEmpty = d.isEmpty :=
  (later.left.faithful.delay later.right.faithful later.hits).1

theorem stretch (later : Delays ticks planes c d) : c.stretch.Delays ticks d.stretch :=
  (later.left.faithful.delay later.right.faithful later.hits).2.2 later.left.hits_ne_nil

theorem timeSpan (later : Delays ticks planes c d) : c.timeSpan = d.timeSpan := by
  rw [Cluster.timeSpan, Cluster.timeSpan, later.isEmpty, later.stretch.ticks_eq]

end Cluster.Delays

namespace Event

section Filled

variable (later : Event.Delays ticks planes e e') (filled : e.isEmpty = false) (same : Cluster.Delays ticks planes c d)

include later filled

theorem Delays.stretch_of_filled : e.stretch.Delays ticks e'.stretch :=
  later.stretch fun none => Bool.false_ne_true (filled.symm.trans (isEmpty_iff.mpr none))

theorem Delays.timeSpan : e.timeSpan = e'.timeSpan := by
  rw [Event.timeSpan, Event.timeSpan, later.isEmpty, (later.stretch_of_filled filled).ticks_eq]

include same

theorem Delays.timeGap : e.timeGap c = e'.timeGap d := by
  rw [Event.timeGap, Event.timeGap, later.isEmpty, same.isEmpty, (later.stretch_of_filled filled).gap_eq same.stretch]

theorem Delays.timeOverlap : e.timeOverlap c = e'.timeOverlap d := by
  rw [Event.timeOverlap, Event.timeOverlap, later.isEmpty, same.isEmpty,
    (later.stretch_of_filled filled).overlap_eq same.stretch]

theorem Delays.overlapFraction : e.overlapFraction c = e'.overlapFraction d := by
  rw [Event.overlapFraction, Event.overlapFraction, later.timeOverlap filled same, later.timeSpan filled, same.timeSpan]

end Filled

/-- The same planes take part. -/
theorem Delays.cluster?_isNone (later : Delays ticks planes e e') {plane : UInt8} (tracked : plane ∈ planes) :
    (e.cluster? plane).isNone = (e'.cluster? plane).isNone := by
  obtain ⟨held, held', slot, slot', faithful, faithful', same⟩ := later.slot tracked
  have empty := (faithful.delay faithful' same).1
  rw [cluster?, cluster?, slot, slot']
  cases none : held.isEmpty <;> rw [none] at empty <;> simp [Option.filter, none, ← empty]

theorem modifySlots_delays {plane : UInt8} {held held' : Cluster} {slots slots' : List (UInt8 × Cluster)}
    (now : List.Forall₂ (Hit.Delays ticks) held.hits held'.hits)
    (same : List.Forall₂ (fun slot slot' => slot.1 = slot'.1 ∧ List.Forall₂ (Hit.Delays ticks) slot.2.hits slot'.2.hits)
      slots slots') :
    List.Forall₂ (fun slot slot' => slot.1 = slot'.1 ∧ List.Forall₂ (Hit.Delays ticks) slot.2.hits slot'.2.hits)
      (modifySlots plane (fun _ => held) slots) (modifySlots plane (fun _ => held') slots') := by
  induction same with
  | nil => exact .nil
  | @cons slot slot' _ _ first rest ih =>
    simp only [modifySlots, ← first.1]
    split
    · exact .cons ⟨rfl, now⟩ rest
    · exact .cons first ih

/-- Clusters that correspond join both events and leave them as they were to each other. -/
theorem Delays.joins (later : Delays ticks planes e e') (same : Cluster.Delays ticks planes c d) :
    ∃ joined joined' rest rest', e.merge c = some (joined, rest) ∧ e'.merge d = some (joined', rest') ∧
      Delays ticks planes joined joined' := by
  obtain ⟨plane, member, on⟩ := same.left.on
  obtain ⟨held, held', slot, slot', _, _, hits⟩ := later.slot member
  have merge : e.merge c = some (e.modify plane fun _ => (held.merge c).1, (held.merge c).2) := by
    simp only [Event.merge, on, slot]
  have merge' : e'.merge d = some (e'.modify plane fun _ => (held'.merge d).1, (held'.merge d).2) := by
    simp only [Event.merge, ← same.plane, on, slot']
  refine ⟨_, _, _, _, merge, merge', ?_⟩
  constructor
  · exact (joined_of_merge merge).sound later.left same.left.faithful
  · exact (joined_of_merge merge').sound later.right same.right.faithful
  · rw [planes_modify, later.spanning]
  · refine modifySlots_delays ?_ later.slots
    rw [Cluster.hits_merge_fst, Cluster.hits_merge_fst]
    exact List.rel_append hits same.hits

end Event

/-- No policy but the one that compares centers sees that all hits come later. -/
theorem MatchPolicy.correspondence {policy : MatchPolicy} (distinct : planes.Nodup)
    (exact : ∀ maxDelta clusterTime, policy ≠ .centerProximity maxDelta clusterTime) :
    policy.rule.Correspondence planes (Cluster.Delays ticks planes) (Event.Delays ticks planes) where
  plane same := same.plane
  timeSpan same := same.timeSpan
  ends first second := first.stretch.last.le_iff second.stretch.last
  start := .start distinct
  spanning later := ⟨later.spanning, later.spanning'⟩
  isEmpty later := later.isEmpty
  opened later same on := by
    obtain ⟨plane, tracked, own⟩ := same.left.on
    rw [on] at own
    cases own
    exact later.cluster?_isNone tracked
  joins later same := later.joins same
  proximity {e e' c d} later same filled := by
    have stop : Delay ticks e.timeEnd e'.timeEnd := (later.stretch_of_filled filled).last
    have stop' : Delay ticks c.timeEnd d.timeEnd := same.stretch.last
    cases policy with
    | endProximity maxDelta => simp only [rule, proximity, ticksApart_delay stop stop']
    | overlapFraction threshold maxGap =>
      simp only [rule, proximity, overlapProximity, later.overlapFraction filled same, later.timeGap filled same,
        same.plane, later.spanning, later.spanning']
    | gapProximity maxGap => simp only [rule, proximity, later.timeGap filled same]
    | centerProximity maxDelta clusterTime => exact absurd rfl (exact maxDelta clusterTime)
  reach {e e' c d} maxSpan later same filled := by
    have stop : Delay ticks e.timeEnd e'.timeEnd := (later.stretch_of_filled filled).last
    cases policy <;> exact readingAfter_delay stop same.stretch.last _

end EventFormation
