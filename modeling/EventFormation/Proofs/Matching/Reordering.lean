import EventFormation.Proofs.Event.Outline
import EventFormation.Proofs.Matching.Simulation

namespace EventFormation

/-- Two tracked clusters of the same hits, which may have come in another order. -/
structure Cluster.Alike (planes : List UInt8) (c d : Cluster) : Prop where
  left : c.Tracked planes
  right : d.Tracked planes
  hits : c.hits.Perm d.hits

/-- Two events over these planes of the same hits. -/
structure Event.Alike (planes : List UInt8) (e e' : Event) : Prop where
  left : e.Sound
  right : e'.Sound
  spanning : e.planes = planes
  spanning' : e'.planes = planes
  hits : e.hits.Perm e'.hits

/-- The rule does not tell events or clusters of the same hits from each other. -/
structure JoinRule.Impartial (planes : List UInt8) (rule : JoinRule) : Prop where
  proximity : ∀ {e e' c d}, Event.Alike planes e e' → Cluster.Alike planes c d →
    rule.proximity e c = rule.proximity e' d
  reach : ∀ {e e'} maxSpan, Event.Alike planes e e' → rule.reach e maxSpan = rule.reach e' maxSpan

variable {planes : List UInt8} {c d : Cluster} {e e' : Event}

namespace Cluster.Alike

theorem plane (alike : Alike planes c d) : c.plane = d.plane :=
  (alike.left.faithful.unique alike.right.faithful alike.hits).2.1

theorem stretch (alike : Alike planes c d) : c.stretch = d.stretch := by
  obtain ⟨_, _, start, stop⟩ := alike.left.faithful.unique alike.right.faithful alike.hits
  rw [Cluster.stretch, Cluster.stretch, start, stop]

theorem timeEnd (alike : Alike planes c d) : c.timeEnd = d.timeEnd := congrArg TimeSpan.last alike.stretch

theorem isEmpty (alike : Alike planes c d) : c.isEmpty = d.isEmpty :=
  (alike.left.faithful.unique alike.right.faithful alike.hits).1

theorem timeSpan (alike : Alike planes c d) : c.timeSpan = d.timeSpan := by
  rw [Cluster.timeSpan, Cluster.timeSpan, alike.isEmpty, alike.stretch]

end Cluster.Alike

namespace Event.Alike

theorem start (distinct : planes.Nodup) : Alike planes (ofPlanes planes) (ofPlanes planes) where
  left := .ofPlanes distinct
  right := .ofPlanes distinct
  spanning := planes_ofPlanes planes
  spanning' := planes_ofPlanes planes
  hits := List.Perm.refl _

theorem stretch (alike : Alike planes e e') : e.stretch = e'.stretch := by
  obtain ⟨start, stop⟩ := alike.left.times_unique alike.right alike.hits
  rw [Event.stretch, Event.stretch, start, stop]

theorem timeEnd (alike : Alike planes e e') : e.timeEnd = e'.timeEnd := congrArg TimeSpan.last alike.stretch

theorem isEmpty (alike : Alike planes e e') : e.isEmpty = e'.isEmpty := by
  rw [Bool.eq_iff_iff, isEmpty_iff, isEmpty_iff, ← List.length_eq_zero_iff, ← List.length_eq_zero_iff,
    alike.hits.length_eq]

theorem timeSpan (alike : Alike planes e e') : e.timeSpan = e'.timeSpan := by
  rw [Event.timeSpan, Event.timeSpan, alike.isEmpty, alike.stretch]

theorem timeOverlap (alike : Alike planes e e') (same : Cluster.Alike planes c d) :
    e.timeOverlap c = e'.timeOverlap d := by
  rw [Event.timeOverlap, Event.timeOverlap, alike.isEmpty, alike.stretch, same.isEmpty, same.stretch]

theorem timeGap (alike : Alike planes e e') (same : Cluster.Alike planes c d) : e.timeGap c = e'.timeGap d := by
  rw [Event.timeGap, Event.timeGap, alike.isEmpty, alike.stretch, same.isEmpty, same.stretch]

theorem overlapFraction (alike : Alike planes e e') (same : Cluster.Alike planes c d) :
    e.overlapFraction c = e'.overlapFraction d := by
  rw [Event.overlapFraction, Event.overlapFraction, alike.timeOverlap same, alike.timeSpan, same.timeSpan]

/-- The same planes take part. -/
theorem cluster?_isNone (alike : Alike planes e e') {plane : UInt8} (tracked : plane ∈ planes) :
    (e.cluster? plane).isNone = (e'.cluster? plane).isNone := by
  obtain ⟨held, slot, _, hits⟩ := alike.left.slot_hits (alike.spanning ▸ tracked)
  obtain ⟨held', slot', _, hits'⟩ := alike.right.slot_hits (alike.spanning' ▸ tracked)
  have same : held.hits.length = held'.hits.length := by
    rw [hits, hits']
    exact (alike.hits.filter _).length_eq
  have empty : held.isEmpty = held'.isEmpty := by
    rw [Bool.eq_iff_iff, Cluster.isEmpty_iff, Cluster.isEmpty_iff, ← List.length_eq_zero_iff,
      ← List.length_eq_zero_iff, same]
  rw [cluster?, cluster?, slot, slot']
  cases none : held.isEmpty <;> rw [none] at empty <;> simp [Option.filter, none, ← empty]

/-- Clusters of the same hits join both events and leave them alike. -/
theorem joins (alike : Alike planes e e') (same : Cluster.Alike planes c d) :
    ∃ joined joined' rest rest', e.merge c = some (joined, rest) ∧ e'.merge d = some (joined', rest') ∧
      Alike planes joined joined' := by
  obtain ⟨plane, member, on⟩ := same.left.on
  obtain ⟨joined, rest, merge, join⟩ := merge_of_tracked on (alike.spanning ▸ member)
  obtain ⟨joined', rest', merge', join'⟩ := merge_of_tracked (same.plane ▸ on) (alike.spanning' ▸ member)
  refine ⟨joined, joined', rest, rest', merge, merge', ?_⟩
  constructor
  · exact join.sound alike.left same.left.faithful
  · exact join'.sound alike.right same.right.faithful
  · exact join.planes.trans alike.spanning
  · exact join'.planes.trans alike.spanning'
  · exact (join.hits_perm.trans (alike.hits.append same.hits)).trans join'.hits_perm.symm

end Event.Alike

/-- All policies but the one that compares centers are impartial. -/
theorem MatchPolicy.impartial {policy : MatchPolicy} (planes : List UInt8)
    (exact : ∀ maxDelta clusterTime, policy ≠ .centerProximity maxDelta clusterTime) :
    policy.rule.Impartial planes := by
  cases policy with
  | endProximity maxDelta =>
    refine ⟨fun alike same => ?_, fun maxSpan alike => ?_⟩
    · simp only [rule, proximity, alike.timeEnd, same.timeEnd]
    · simp only [rule, reach, alike.timeEnd]
  | overlapFraction threshold maxGap =>
    refine ⟨fun alike same => ?_, fun maxSpan alike => ?_⟩
    · simp only [rule, proximity, overlapProximity, alike.overlapFraction same, alike.timeGap same, same.plane,
        alike.spanning, alike.spanning']
    · simp only [rule, reach, alike.timeEnd]
  | gapProximity maxGap =>
    refine ⟨fun alike same => ?_, fun maxSpan alike => ?_⟩
    · simp only [rule, proximity, alike.timeGap same]
    · simp only [rule, reach, alike.timeEnd]
  | centerProximity maxDelta clusterTime => exact absurd rfl (exact maxDelta clusterTime)

/-- Clusters and events of the same hits correspond under a rule that does not tell them from each other. -/
theorem JoinRule.Impartial.correspondence {rule : JoinRule} (impartial : rule.Impartial planes)
    (distinct : planes.Nodup) : rule.Correspondence planes (Cluster.Alike planes) (Event.Alike planes) where
  plane same := same.plane
  timeSpan same := same.timeSpan
  ends first second := by rw [first.timeEnd, second.timeEnd]
  start := .start distinct
  spanning alike := ⟨alike.spanning, alike.spanning'⟩
  isEmpty alike := alike.isEmpty
  opened alike same on := by
    obtain ⟨plane, tracked, own⟩ := same.left.on
    rw [on] at own
    cases own
    exact alike.cluster?_isNone tracked
  joins alike same := alike.joins same
  proximity alike same _ := impartial.proximity alike same
  reach maxSpan alike same _ := by rw [impartial.reach maxSpan alike, same.timeEnd]

/-- A flush makes events of the same hits of clusters of the same hits. -/
theorem Matcher.flush_alike {m m' q : Matcher} (impartial : m.rule.Impartial m.planes) (distinct : m.planes.Nodup)
    (rule : m'.rule = m.rule) (spanning : m'.planes = m.planes)
    (same : List.Forall₂ (Cluster.Alike m.planes) m.unmatched m'.unmatched) (run : m.flush = .ok q) :
    ∃ q' closed closed', m'.flush = .ok q' ∧ q.events = m.events ++ closed ∧ q'.events = m'.events ++ closed' ∧
      List.Forall₂ (Event.Alike m.planes) closed closed' :=
  flush_related (impartial.correspondence distinct) rule spanning same run

end EventFormation
