import EventFormation.Matching.Matcher
import EventFormation.Proofs.Event.Slots
import EventFormation.Proofs.Fault

namespace EventFormation

/-- The clock can count the time from any of these hits to any other, both ends included. -/
def ClockLimited (hits : List Hit) : Prop :=
  ∀ first ∈ hits, ∀ last ∈ hits, ticksSince first.time last.time < lastTick

instance (hits : List Hit) : Decidable (ClockLimited hits) :=
  inferInstanceAs (Decidable (∀ first ∈ hits, ∀ last ∈ hits, ticksSince first.time last.time < lastTick))

theorem ClockLimited.subset {hits within : List Hit} (limited : ClockLimited within)
    (inside : hits ⊆ within) : ClockLimited hits :=
  fun first atFirst last atLast => limited first (inside atFirst) last (inside atLast)

theorem Extremes.clockLimited_iff {hits : List Hit} {low high : UInt64}
    (times : Extremes (hits.map (·.time)) low high) : ClockLimited hits ↔ ticksSince low high < lastTick := by
  constructor
  · intro limited
    obtain ⟨first, atFirst, start⟩ := List.mem_map.mp times.low_mem
    obtain ⟨last, atLast, stop⟩ := List.mem_map.mp times.high_mem
    rw [← start, ← stop]
    exact limited first atFirst last atLast
  · intro short first atFirst last atLast
    have start := UInt64.le_iff_toNat_le.mp (times.low_le _ (List.mem_map_of_mem atFirst))
    have stop := UInt64.le_iff_toNat_le.mp (times.le_high _ (List.mem_map_of_mem atLast))
    rw [ticksSince] at short ⊢
    omega

theorem checkedSum_ticks_total {first last : UInt64} (short : ticksSince first last < lastTick) :
    ∃ ticks, checkedSum (ticksSince first last) 1 = .ok ticks := by
  refine ⟨_, checkedSum_eq_ok_iff.mpr ⟨?_, rfl⟩⟩
  simp only [lastTick, wordCount] at short ⊢
  omega

theorem TimeSpan.overlap_total {a b : TimeSpan} (short : ticksSince a.first a.last < lastTick) :
    ∃ ticks, a.overlap b = .ok ticks := by
  unfold overlap
  dsimp only
  split
  · exact ⟨0, rfl⟩
  · apply checkedSum_ticks_total
    have later : a.first ≤ max a.first b.first := Std.left_le_max
    have earlier : min a.last b.last ≤ a.last := Std.min_le_left
    rw [UInt64.le_iff_toNat_le] at later earlier
    simp only [ticksSince] at short ⊢
    omega

section Spans

variable {pool : List Hit} {e : Event} {c : Cluster}

theorem Cluster.Faithful.span_lt (faithful : c.Faithful) (limited : ClockLimited pool)
    (inside : c.hits ⊆ pool) (some : c.hits ≠ []) : ticksSince c.timeStart c.timeEnd < lastTick :=
  (faithful.times some).clockLimited_iff.mp (limited.subset inside)

theorem Event.Sound.span_lt (sound : e.Sound) (limited : ClockLimited pool)
    (inside : e.hits ⊆ pool) (some : e.hits ≠ []) : ticksSince e.timeStart e.timeEnd < lastTick :=
  (sound.times some).clockLimited_iff.mp (limited.subset inside)

theorem Cluster.Faithful.timeSpan_total (faithful : c.Faithful) (limited : ClockLimited pool)
    (inside : c.hits ⊆ pool) : ∃ ticks, c.timeSpan = .ok ticks := by
  unfold Cluster.timeSpan
  split
  · exact ⟨0, rfl⟩
  · rename_i filled
    rw [Cluster.isEmpty_iff] at filled
    exact checkedSum_ticks_total (faithful.span_lt limited inside filled)

theorem Event.Sound.timeSpan_total (sound : e.Sound) (limited : ClockLimited pool)
    (inside : e.hits ⊆ pool) : ∃ ticks, e.timeSpan = .ok ticks := by
  unfold Event.timeSpan
  split
  · exact ⟨0, rfl⟩
  · rename_i filled
    rw [Event.isEmpty_iff] at filled
    exact checkedSum_ticks_total (sound.span_lt limited inside filled)

theorem Event.Sound.timeOverlap_total (sound : e.Sound) (limited : ClockLimited pool)
    (inside : e.hits ⊆ pool) : ∃ ticks, e.timeOverlap c = .ok ticks := by
  unfold Event.timeOverlap
  split
  · exact ⟨0, rfl⟩
  · rename_i filled
    simp only [Bool.or_eq_true, not_or, Event.isEmpty_iff] at filled
    exact TimeSpan.overlap_total (sound.span_lt limited inside filled.1)

end Spans

/-- The rule decides on all clusters and events of these hits. -/
def JoinRule.Answers (rule : JoinRule) (pool : List Hit) : Prop :=
  ∀ e c, e.Sound → c.Faithful → e.hits ⊆ pool → c.hits ⊆ pool →
    ∃ distance, rule.proximity e c = .ok distance

/-- Whether a policy asks for the length of the event that a cluster is compared with. -/
def MatchPolicy.measuresEvents : MatchPolicy → Bool
  | overlapFraction _ _ => true
  | endProximity _ | gapProximity _ | centerProximity _ _ => false

theorem MatchPolicy.proximity_total (policy : MatchPolicy) {e : Event} {c : Cluster} (sound : e.Sound)
    (faithful : c.Faithful) (inEvent : policy.measuresEvents = true → ClockLimited e.hits)
    (inCluster : ClockLimited c.hits) : ∃ distance, policy.rule.proximity e c = .ok distance := by
  cases policy with
  | endProximity maxDelta => exact ⟨_, rfl⟩
  | gapProximity maxGap => exact ⟨_, rfl⟩
  | centerProximity maxDelta clusterTime => exact ⟨_, rfl⟩
  | overlapFraction threshold maxGap =>
    have limited := inEvent rfl
    obtain ⟨shared, atShared⟩ := sound.timeOverlap_total (c := c) limited (List.Subset.refl _)
    obtain ⟨part, atPart⟩ := faithful.timeSpan_total inCluster (List.Subset.refl _)
    obtain ⟨whole, atWhole⟩ := sound.timeSpan_total limited (List.Subset.refl _)
    have fraction : ∃ fraction, e.overlapFraction c = .ok fraction := by
      simp only [Event.overlapFraction, atShared, atPart, atWhole, bind, Except.bind]
      split <;> exact ⟨_, rfl⟩
    obtain ⟨fraction, atFraction⟩ := fraction
    show ∃ distance, overlapProximity threshold maxGap e c = .ok distance
    simp only [overlapProximity, atFraction, bind, Except.bind]
    split
    · exact ⟨_, rfl⟩
    · split <;> exact ⟨_, rfl⟩

theorem MatchPolicy.answers (policy : MatchPolicy) {pool : List Hit} (limited : ClockLimited pool) :
    policy.rule.Answers pool :=
  fun _ _ sound faithful inEvent inCluster =>
    policy.proximity_total sound faithful (fun _ => limited.subset inEvent) (limited.subset inCluster)

theorem Matcher.longestSpan_total {clusters : List Cluster} {pool : List Hit}
    (limited : ClockLimited pool) (faithful : ∀ c ∈ clusters, c.Faithful)
    (inside : ∀ c ∈ clusters, c.hits ⊆ pool) : ∃ ticks, longestSpan clusters = .ok ticks := by
  obtain ⟨spans, atSpans⟩ := mapM_total fun c member => (faithful c member).timeSpan_total limited (inside c member)
  exact ⟨spans.max?.getD 0, by rw [longestSpan, atSpans]; rfl⟩

end EventFormation
