import EventFormation.Proofs.Matching.Horizon

namespace EventFormation.Matcher

/-- Hands in the clusters of several planes. -/
def insertAll (m : Matcher) (parts : List (UInt8 × List Cluster)) : Matcher :=
  parts.foldl (fun m part => m.insert part.1 part.2) m

/-- Clusters that are all on the tracked plane that they are handed in for. -/
def Proper (planes : List UInt8) (part : UInt8 × List Cluster) : Prop :=
  part.1 ∈ planes ∧ ∀ c ∈ part.2, c.Faithful ∧ c.plane = some part.1

/-- What handing in proper clusters changes. -/
structure Delivered (m q : Matcher) (parts : List (UInt8 × List Cluster)) : Prop where
  planes : q.planes = m.planes
  unmatched : q.unmatched = m.unmatched ++ parts.flatMap (·.2)
  progress : ∀ entry ∈ q.progress, ∃ old, (entry.1, old) ∈ m.progress ∧ (entry.2 = old ∨
    ∃ clusters, (entry.1, clusters) ∈ parts ∧ ∃ c ∈ clusters, entry.2 = c.timeStart)
  rejected : q.rejected = m.rejected
  events : q.events = m.events
  counted : q.eventCount = m.eventCount
  rule : q.rule = m.rule
  latency : q.latency = m.latency
  minimumQueued : q.minimumQueued = m.minimumQueued

variable {m : Matcher}

/-- Handing in nothing changes nothing. -/
theorem insert_nil (m : Matcher) (plane : UInt8) : m.insert plane [] = m := by
  unfold Matcher.insert
  split
  · simp [advance_nil]
  · rfl

theorem insert_delivered {part : UInt8 × List Cluster} (proper : Proper m.planes part) :
    Delivered m (m.insert part.1 part.2) [part] := by
  obtain ⟨tracked, own⟩ := proper
  have queued := insert_queued (m := m) part.1 part.2 fun c member => (own c member).1
  have all : (Command.insert part.1 part.2).accepted m.planes = part.2 := by
    refine List.filter_eq_self.mpr fun c member => ?_
    obtain ⟨faithful, on⟩ := own c member
    simpa [Command.accepts, tracked] using (faithful.plane part.1).mp on
  have none : (Command.insert part.1 part.2).refused m.planes = [] := by
    rw [Command.accepted, Command.clusters, List.filter_eq_self] at all
    exact List.filter_eq_nil_iff.mpr fun c member => by simp [all c member]
  refine ⟨queued.planes, by rw [queued.unmatched, all, List.flatMap_singleton], ?_,
    by rw [queued.rejected, none, List.length_nil, Nat.add_zero], queued.events, queued.counted, queued.rule,
    queued.latency, queued.minimumQueued⟩
  intro entry member
  obtain ⟨old, there, same | ⟨plane, c, handed, _, start⟩⟩ := mem_progress_insert member
  · exact ⟨old, there, Or.inl same⟩
  · exact ⟨old, there, Or.inr ⟨part.2, by rw [plane]; exact List.mem_singleton_self part, c, handed, start⟩⟩

theorem insertAll_delivered {parts : List (UInt8 × List Cluster)}
    (proper : ∀ part ∈ parts, Proper m.planes part) : Delivered m (m.insertAll parts) parts := by
  induction parts generalizing m with
  | nil =>
    exact ⟨rfl, by simp [insertAll], fun entry member => ⟨entry.2, member, Or.inl rfl⟩, rfl, rfl, rfl, rfl, rfl, rfl⟩
  | cons part rest ih =>
    have first := insert_delivered (proper part List.mem_cons_self)
    have others : Delivered (m.insert part.1 part.2) (m.insertAll (part :: rest)) rest := by
      refine ih fun other member => ?_
      rw [first.planes]
      exact proper other (List.mem_cons_of_mem part member)
    refine ⟨others.planes.trans first.planes, ?_, ?_, others.rejected.trans first.rejected,
      others.events.trans first.events, others.counted.trans first.counted,
      others.rule.trans first.rule, others.latency.trans first.latency,
      others.minimumQueued.trans first.minimumQueued⟩
    · rw [others.unmatched, first.unmatched, List.flatMap_singleton, List.append_assoc, List.flatMap_cons]
    · intro entry member
      obtain ⟨old, there, same | ⟨clusters, inside, start⟩⟩ := others.progress entry member
      · obtain ⟨older, there', same' | ⟨clusters, inside, start⟩⟩ := first.progress _ there
        · exact ⟨older, there', Or.inl (same.trans same')⟩
        · refine ⟨older, there', Or.inr ⟨clusters, ?_, by rwa [same]⟩⟩
          rw [List.mem_singleton.mp inside]
          exact List.mem_cons_self
      · obtain ⟨older, there', _⟩ := first.progress _ there
        exact ⟨older, there', Or.inr ⟨clusters, List.mem_cons_of_mem part inside, start⟩⟩

end EventFormation.Matcher
