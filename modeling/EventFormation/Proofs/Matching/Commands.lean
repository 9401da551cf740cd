import EventFormation.Matching.Matcher
import EventFormation.Proofs.Cluster.Bounds

namespace EventFormation

/-- What can be asked of a matcher. -/
inductive Matcher.Command
  | insert (plane : UInt8) (clusters : List Cluster)
  | insertCluster (c : Cluster)
  | poll
  | flush
  | take

namespace Matcher.Command

/-- The clusters that are handed in. -/
def clusters : Command → List Cluster
  | insert _ clusters => clusters
  | insertCluster c => [c]
  | poll | flush | take => []

/-- A cluster is to be accepted if it has hits and they are all on one tracked plane, which is the
one it is handed in for, if that is given. -/
def accepts (planes : List UInt8) : Command → Cluster → Bool
  | insert plane _, c => decide (plane ∈ planes ∧ c.hits ≠ [] ∧ ∀ hit ∈ c.hits, hit.plane = plane)
  | insertCluster _, c => decide (c.hits ≠ [] ∧ ∃ plane ∈ planes, ∀ hit ∈ c.hits, hit.plane = plane)
  | poll, _ | flush, _ | take, _ => false

def accepted (planes : List UInt8) (command : Command) : List Cluster :=
  command.clusters.filter (command.accepts planes)

def refused (planes : List UInt8) (command : Command) : List Cluster :=
  command.clusters.filter (!command.accepts planes ·)

end Matcher.Command

namespace Matcher

theorem planes_advance (plane : UInt8) (starts : List UInt64) (progress : List (UInt8 × UInt64)) :
    (advance plane starts progress).map (·.1) = progress.map (·.1) := by
  induction progress with
  | nil => rfl
  | cons entry rest ih =>
    unfold advance
    split
    · rfl
    · rw [List.map_cons, List.map_cons, ih]

/-- What handing clusters in changes. -/
structure Queued (m q : Matcher) (command : Command) : Prop where
  planes : q.planes = m.planes
  unmatched : q.unmatched = m.unmatched ++ command.accepted m.planes
  rejected : q.rejected = m.rejected + (command.refused m.planes).length
  events : q.events = m.events
  counted : q.eventCount = m.eventCount
  rule : q.rule = m.rule
  latency : q.latency = m.latency
  minimumQueued : q.minimumQueued = m.minimumQueued

variable {m : Matcher}

theorem insert_queued (plane : UInt8) (clusters : List Cluster)
    (faithful : ∀ c ∈ clusters, c.Faithful) : Queued m (m.insert plane clusters) (.insert plane clusters) := by
  by_cases tracked : plane ∈ m.planes
  · have own : ∀ c ∈ clusters, (c.plane == some plane) = (Command.insert plane clusters).accepts m.planes c := by
      intro c member
      rw [Bool.eq_iff_iff, beq_iff_eq, (faithful c member).plane plane]
      simp [Command.accepts, tracked]
    have accepted : clusters.filter (·.plane == some plane) = (Command.insert plane clusters).accepted m.planes :=
      List.filter_congr own
    have refused : clusters.filter (fun c => !(c.plane == some plane)) =
        (Command.insert plane clusters).refused m.planes :=
      List.filter_congr fun c member => by rw [own c member]
    have result : m.insert plane clusters = { m with
        progress := advance plane ((clusters.filter (·.plane == some plane)).map (·.timeStart)) m.progress
        unmatched := m.unmatched ++ clusters.filter (·.plane == some plane)
        rejected := m.rejected + (clusters.filter fun c => !(c.plane == some plane)).length } := by
      simp only [Matcher.insert, List.contains_iff_mem.mpr tracked, if_true,
        List.partition_eq_filter_filter]
      rfl
    rw [result]
    exact ⟨planes_advance .., congrArg _ accepted, by rw [← refused], rfl, rfl, rfl, rfl, rfl⟩
  · have none : (Command.insert plane clusters).accepts m.planes = fun _ => false := by
      funext c
      simp [Command.accepts, tracked]
    have result : m.insert plane clusters = { m with rejected := m.rejected + clusters.length } := by
      simp [Matcher.insert, tracked]
    rw [result]
    exact ⟨rfl, by simp [Command.accepted, none], by simp [Command.refused, none, Command.clusters],
      rfl, rfl, rfl, rfl, rfl⟩

theorem insertCluster_queued (c : Cluster) (faithful : c.Faithful) :
    Queued m (m.insertCluster c) (.insertCluster c) := by
  have plane := faithful.plane
  unfold Matcher.insertCluster
  cases on : c.plane with
  | none =>
    have refuses : (Command.insertCluster c).accepts m.planes c = false := by
      have none : ∀ p, ¬ (c.hits ≠ [] ∧ ∀ hit ∈ c.hits, hit.plane = p) := by
        intro p all
        have own := (plane p).mpr all
        rw [on] at own
        cases own
      simp only [Command.accepts, decide_eq_false_iff_not]
      rintro ⟨some, p, _, all⟩
      exact none p ⟨some, all⟩
    exact ⟨rfl, by simp [Command.accepted, Command.clusters, refuses],
      by simp [Command.refused, Command.clusters, refuses], rfl, rfl, rfl, rfl, rfl⟩
  | some p =>
    obtain ⟨filled, all⟩ := (plane p).mp on
    have same : (Command.insertCluster c).accepts m.planes c = (Command.insert p [c]).accepts m.planes c := by
      simp only [Command.accepts, decide_eq_decide]
      constructor
      · rintro ⟨_, q, tracked, others⟩
        obtain ⟨hit, member⟩ := List.exists_mem_of_ne_nil _ filled
        have equal : q = p := (others hit member).symm.trans (all hit member)
        exact ⟨equal ▸ tracked, filled, all⟩
      · rintro ⟨tracked, _, _⟩
        exact ⟨filled, p, tracked, all⟩
    have queued := insert_queued (m := m) p [c] (by simpa using faithful)
    refine ⟨queued.planes, ?_, ?_, queued.events, queued.counted, queued.rule, queued.latency,
      queued.minimumQueued⟩
    · rw [queued.unmatched]
      simp only [Command.accepted, Command.clusters, List.filter_cons, List.filter_nil, same]
    · rw [queued.rejected]
      simp only [Command.refused, Command.clusters, List.filter_cons, List.filter_nil, same]

end Matcher

end EventFormation
