import EventFormation.Proofs.Matching.EndPolls

namespace EventFormation

/-- Clusters that end together, or too far apart for one to follow the other. -/
def Bursts (maxDelta : Nat) (clusters : List Cluster) : Prop :=
  ∀ c ∈ clusters, ∀ d ∈ clusters, c.timeEnd.toNat < d.timeEnd.toNat →
    c.timeEnd.toNat + maxDelta < d.timeEnd.toNat

variable {maxDelta : Nat} {clusters others group : List Cluster}

theorem Bursts.of_ends (bursts : Bursts maxDelta clusters)
    (ends : ∀ c ∈ others, ∃ d ∈ clusters, d.timeEnd = c.timeEnd) : Bursts maxDelta others := by
  intro c atC d atD before
  obtain ⟨c', atC', same⟩ := ends c atC
  obtain ⟨d', atD', same'⟩ := ends d atD
  rw [← same, ← same'] at before ⊢
  exact bursts c' atC' d' atD' before

theorem Bursts.subset (bursts : Bursts maxDelta clusters) (inside : others ⊆ clusters) : Bursts maxDelta others :=
  bursts.of_ends fun c member => ⟨c, inside member, rfl⟩

/-- Clusters that follow each other are of one burst. -/
theorem Linked.end_le (linked : Linked maxDelta group) (bursts : Bursts maxDelta group) :
    ∀ c ∈ group, ∀ d ∈ group, d.timeEnd.toNat ≤ c.timeEnd.toNat := by
  intro c atC d atD
  by_contra later
  obtain ⟨next, atNext, after, close⟩ := linked c atC d atD (Nat.lt_of_not_le later)
  have far := bursts c atC next atNext after
  omega

theorem Linked.of_end_le (together : ∀ c ∈ group, ∀ d ∈ group, d.timeEnd.toNat ≤ c.timeEnd.toNat) :
    Linked maxDelta group :=
  fun c atC d atD after => absurd (together c atC d atD) (Nat.not_le.mpr after)

namespace Matcher

variable {m q : Matcher} {maxDelta : UInt64}

/-- A poll makes no end that was not there before. -/
theorem Polled.ends_old {events : List Event} {closed : List (List Cluster)} {group remade waiting : List Cluster}
    (polled : Polled maxDelta.toNat m q events closed group remade waiting) :
    ∀ c ∈ q.unmatched, ∃ d ∈ m.unmatched, d.timeEnd = c.timeEnd := by
  intro c member
  rcases List.mem_append.mp (polled.after.mem_iff.mp member) with again | late
  · obtain ⟨d, atGroup, same⟩ := polled.kept c again
    exact ⟨d, polled.before.mem_iff.mpr (List.mem_append_right _ (List.mem_append_left _ atGroup)), same⟩
  · exact ⟨c, polled.before.mem_iff.mpr (List.mem_append_right _ (List.mem_append_right _ late)), rfl⟩

theorem Matched.ends_old (matched : Matched m false q) (rule : m.rule = (MatchPolicy.endProximity maxDelta).rule)
    (distinct : m.planes.Nodup) (tracked : ∀ c ∈ m.unmatched, c.Tracked m.planes) :
    ∀ c ∈ q.unmatched, ∃ d ∈ m.unmatched, d.timeEnd = c.timeEnd := by
  rcases matched.poll_chains rule distinct tracked with ⟨rfl, _⟩ | ⟨_, _, _, _, _, _, polled⟩
  · exact fun c member => ⟨c, member, rfl⟩
  · exact polled.ends_old

/-- No poll takes clusters of one burst apart. -/
theorem keepsTogether_of_bursts (rule : m.rule = (MatchPolicy.endProximity maxDelta).rule) (distinct : m.planes.Nodup)
    (tracked : ∀ c ∈ m.unmatched, c.Tracked m.planes) (bursts : Bursts maxDelta.toNat m.unmatched) :
    m.KeepsTogether maxDelta.toNat := by
  intro enough q run
  have matched := matchQueue_matched distinct tracked run
  rcases matched.poll_chains rule distinct tracked with ⟨_, few⟩ | ⟨_, _, _, group, remade, waiting, polled⟩
  · omega
  · have inGroup : group ⊆ m.unmatched := fun c member =>
      polled.before.mem_iff.mpr (List.mem_append_right _ (List.mem_append_left _ member))
    have together := polled.linked.end_le (bursts.subset inGroup)
    refine (Linked.of_end_le fun c atC d atD => ?_).perm polled.filter_ready.symm
    obtain ⟨c', atC', same⟩ := polled.kept c atC
    obtain ⟨d', atD', same'⟩ := polled.kept d atD
    rw [← same, ← same']
    exact together c' atC' d' atD'

end Matcher

end EventFormation
