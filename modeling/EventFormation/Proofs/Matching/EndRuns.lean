import EventFormation.Proofs.Matching.EndPolls
import EventFormation.Proofs.Matching.Visits
import Mathlib.Data.List.SplitBy

namespace EventFormation

section Runs

variable {maxDelta : Nat} {group : List Cluster} {groups : List (List Cluster)}

/-- In the order of their ends, clusters that follow each other closely do so one by one. -/
theorem Linked.isChain (linked : Linked maxDelta group) (sorted : group.Pairwise fun a b => a.timeEnd ≤ b.timeEnd) :
    group.IsChain fun a b => ticksApart a.timeEnd b.timeEnd ≤ maxDelta := by
  have ordered {i j : Nat} (inside : j < group.length) (before : i ≤ j) :
      group[i].timeEnd.toNat ≤ group[j].timeEnd.toNat := by
    rcases Nat.lt_or_eq_of_le before with earlier | rfl
    · exact UInt64.le_iff_toNat_le.mp (List.pairwise_iff_getElem.mp sorted i j (by omega) inside earlier)
    · exact Nat.le_refl _
  refine List.isChain_iff_getElem.mpr fun i inside => ?_
  have step := ordered inside (Nat.le_succ i)
  rw [Pass.ticksApart_of_le (UInt64.le_iff_toNat_le.mpr step)]
  by_cases later : group[i].timeEnd.toNat < group[i + 1].timeEnd.toNat
  · obtain ⟨next, member, after, close⟩ := linked group[i] (List.getElem_mem _) group[i + 1] (List.getElem_mem _) later
    obtain ⟨j, atJ, rfl⟩ := List.getElem_of_mem member
    -- The clusters are in order, so the next one cannot end before the neighbor does.
    have behind : i + 1 ≤ j := by
      by_contra before
      have low := ordered (Nat.lt_of_succ_lt inside) (show j ≤ i by omega)
      omega
    have low := ordered atJ behind
    omega
  · omega

/-- In the order of their ends, clusters are divided into chains by the gaps between neighbors. -/
theorem Chains.splitBy_flatten (chains : Chains maxDelta groups)
    (sorted : groups.flatten.Pairwise fun a b => a.timeEnd ≤ b.timeEnd) :
    groups.flatten.splitBy (fun a b => decide (ticksApart a.timeEnd b.timeEnd ≤ maxDelta)) = groups := by
  refine List.splitBy_flatten (fun empty => chains.filled [] empty rfl) (fun group member => ?_) ?_
  · have ordered := sorted.sublist (List.sublist_flatten_of_mem member)
    simpa using (chains.linked group member).isChain ordered
  · refine (chains.apart.imp_of_mem fun {earlier later} atEarlier atLater apart => ?_).isChain
    have some := chains.filled earlier atEarlier
    have some' := chains.filled later atLater
    have far := apart _ (List.getLast_mem some) _ (List.head_mem some')
    refine ⟨some, some', decide_eq_false ?_⟩
    simp only [ticksApart, ticksSince]
    omega

end Runs

/-- The clusters in the order of their ends, divided where the ends of neighbors are too far apart. Clusters of one
end keep their order. -/
def endRuns (maxDelta : Nat) (clusters : List Cluster) : List (List Cluster) :=
  (clusters.mergeSort fun a b => decide (a.timeEnd ≤ b.timeEnd)).splitBy fun a b =>
    decide (ticksApart a.timeEnd b.timeEnd ≤ maxDelta)

namespace Event

/-- Each slot holds the hits of the clusters of its plane, one cluster after the other. -/
def Lined (e : Event) (group : List Cluster) : Prop :=
  ∀ slot ∈ e.slots, slot.2.hits = (group.filter (·.plane == some slot.1)).flatMap Cluster.hits

theorem Lined.ofPlanes (planes : List UInt8) : (ofPlanes planes).Lined [] := by
  intro slot member
  obtain ⟨plane, _, rfl⟩ := List.mem_map.mp member
  simp

theorem Lined.join {e joined : Event} {group : List Cluster} {c : Cluster} (lined : e.Lined group) (sound : e.Sound)
    (join : e.Joined c joined) : joined.Lined (group ++ [c]) := by
  obtain ⟨before, plane, held, after, on, slots, slots'⟩ := join
  have apart := sound.distinct
  simp only [Event.planes, slots, List.map_append, List.map_cons, List.nodup_middle, List.nodup_cons] at apart
  intro slot member
  rw [slots', List.mem_append, List.mem_cons] at member
  have other (kept : slot ∈ before ∨ slot ∈ after) :
      slot.2.hits = ((group ++ [c]).filter (·.plane == some slot.1)).flatMap Cluster.hits := by
    have old : slot ∈ e.slots := by
      rw [slots, List.mem_append, List.mem_cons]
      exact kept.imp_right Or.inr
    have strange : plane ≠ slot.1 := by
      intro same
      rw [same, ← List.map_append] at apart
      exact apart.1 (List.mem_map_of_mem (List.mem_append.mpr kept))
    rw [lined slot old]
    simp [List.filter_append, on, strange]
  rcases member with first | rfl | last
  · exact other (Or.inl first)
  · have own := lined (plane, held) (by simp [slots])
    simp [List.filter_append, on, own]
  · exact other (Or.inr last)

end Event

namespace Pass

variable {t : Terms} {planes : List UInt8} {maxDelta : UInt64} {p : Pass} {queue : List Cluster}

/-- In all states of a walk by ends, closed events are made of chains, in the order of their clusters, and nothing
was ever deferred. -/
theorem Reaches.lined (reach : Reaches t { queue, event := Event.ofPlanes planes } p)
    (rule : t.rule = (MatchPolicy.endProximity maxDelta).rule) (distinct : planes.Nodup)
    (tracked : ∀ c ∈ queue, c.Tracked planes) (sorted : queue.Pairwise fun a b => a.timeEnd ≤ b.timeEnd) :
    ∃ closed group, Chained t maxDelta.toNat queue p closed group ∧
      List.Forall₂ Event.Lined p.closed.toList closed ∧ p.event.Lined group := by
  apply reach.preserves (.start distinct tracked)
  · exact ⟨[], [], .start queue planes, .nil, .ofPlanes planes⟩
  · rintro p move sound ⟨closed, group, chained, events, event⟩ next
    rcases chained.next rule sound tracked sorted next with
      ⟨result, ended⟩ | ⟨front, rest, joined, atFront, join, result, continued⟩
    · rw [result]
      refine ⟨_, _, ended, ?_, .ofPlanes _⟩
      rw [Pass.close, Series.toList_push]
      exact List.rel_append events (.cons event .nil)
    · rw [result]
      exact ⟨_, _, continued, events, event.join sound.event join⟩

end Pass

namespace Matcher

variable {m q : Matcher} {maxDelta : UInt64}

/-- A matcher that matches everything closes an event for each run of its clusters, in order. -/
theorem Matched.flush_lined (matched : Matched m true q) (rule : m.rule = (MatchPolicy.endProximity maxDelta).rule)
    (distinct : m.planes.Nodup) (tracked : ∀ c ∈ m.unmatched, c.Tracked m.planes) :
    ∃ events, q.events = m.events ++ events ∧
      List.Forall₂ Event.Lined events (endRuns maxDelta.toNat m.unmatched) := by
  cases matched with
  | skipped idle =>
    have none : m.unmatched = [] := by simpa using idle
    exact ⟨[], by simp, by simp [endRuns, none]⟩
  | @walked maxSpan pass some enough spans run walked =>
    have inTracked := sortByEnd_tracked tracked
    have sorted := sortByEnd_sorted m.unmatched
    obtain ⟨closed, group, chained, events, event⟩ :=
      (Pass.reaches_of_walkWithin run).lined (t := m.terms true maxSpan) rule distinct inTracked sorted
    obtain ⟨groups, chains, whole, shaped⟩ := flushed_chains chained inTracked (flushed_queue walked)
    have runs : endRuns maxDelta.toNat m.unmatched = groups := by
      rw [← whole] at sorted
      rw [endRuns, ← chains.splitBy_flatten sorted, whole, sortByEnd, stableSort_eq]
    exact ⟨_, rfl, runs ▸ shaped events event⟩

/-- Whether a command hands clusters in. -/
def Command.inserts : Command → Bool
  | insert _ _ | insertCluster _ => true
  | poll | flush | take => false

end Matcher

namespace Ledger

open Matcher (Command)

/-- Clusters that are only handed in wait in the order in which they came. -/
theorem performAll_inserts {commands : List Command} {l q : Ledger}
    (inserting : ∀ command ∈ commands, command.inserts = true)
    (faithful : ∀ c ∈ commands.flatMap (·.clusters), c.Faithful) (run : l.performAll commands = .ok q) :
    q.matcher.unmatched = l.matcher.unmatched ++ commands.flatMap (·.accepted l.matcher.planes) ∧
      q.matcher.events = l.matcher.events := by
  induction commands generalizing l with
  | nil =>
    cases run
    simp
  | cons command rest ih =>
    obtain ⟨next, step, run⟩ := performAll_cons_eq_ok.mp run
    have own : ∀ c ∈ command.clusters, c.Faithful := fun c member => faithful c (by simp [member])
    have queued : l.matcher.Queued next.matcher command := by
      cases command with
      | insert plane clusters =>
        cases step
        exact Matcher.insert_queued plane clusters own
      | insertCluster c =>
        cases step
        exact Matcher.insertCluster_queued c (own c List.mem_cons_self)
      | poll => cases inserting .poll List.mem_cons_self
      | flush => cases inserting .flush List.mem_cons_self
      | take => cases inserting .take List.mem_cons_self
    obtain ⟨unmatched, events⟩ := ih (fun other member => inserting other (List.mem_cons_of_mem command member))
      (fun c member => faithful c (by rw [List.flatMap_cons]; exact List.mem_append_right _ member)) run
    rw [queued.unmatched, queued.planes] at unmatched
    rw [List.flatMap_cons, ← List.append_assoc]
    exact ⟨unmatched, events.trans queued.events⟩

/-- Clusters that are handed to a new matcher and flushed by ends become one event for each of their runs, in order.
What a run has on a plane is in the slot of that plane, one cluster after the other, and no cluster is deferred. -/
theorem flush_closes_end_runs (maxDelta : UInt64) (config : MatchConfig) (commands : List Command)
    (inserting : ∀ command ∈ commands, command.inserts = true) (valid : config.check = .ok ())
    (built : ∀ c ∈ commands.flatMap (·.clusters), c.Built)
    (limited : ClockLimited ((commands.flatMap (·.clusters)).flatMap Cluster.hits)) :
    ∃ start l m, Matcher.ofRule (MatchPolicy.endProximity maxDelta).rule config = .ok start ∧
      performAll { matcher := start } commands = .ok l ∧ l.matcher.flush = .ok m ∧ m.unmatched = [] ∧
      List.Forall₂ (fun e run => e.planes = config.planes ∧
          ∀ slot ∈ e.slots, slot.2.hits = (run.filter (·.plane == some slot.1)).flatMap Cluster.hits)
        m.events (endRuns maxDelta.toNat (commands.flatMap (·.accepted config.planes))) ∧
      ∀ maxSpan p, l.matcher.Visits true maxSpan p → p.deferred.toList = [] := by
  obtain ⟨start, l, new, run, timed, rule⟩ := exists_timed (.endProximity maxDelta) valid built limited
  have distinct := (MatchConfig.planesChecked_of_check valid).distinct
  obtain ⟨m, events, flush, matched, settled⟩ := timed.balanced.matchQueue distinct
    (by rw [rule]; exact (MatchPolicy.endProximity maxDelta).answers limited) limited (List.Subset.refl _) true
  have spanning := timed.balanced.spanning
  have apart := timed.nodup_planes distinct
  obtain ⟨_, blank⟩ := Timed.start new
  obtain ⟨_, none, fresh⟩ := Matcher.ofRule_eq_ok new
  obtain ⟨waiting, before⟩ := performAll_inserts inserting (fun c member => (built c member).faithful) run
  rw [none, List.nil_append, blank.balanced.spanning] at waiting
  obtain ⟨events', closing, lined⟩ := matched.flush_lined rule apart timed.tracked
  rw [before, fresh, List.nil_append] at closing
  rw [waiting, ← closing] at lined
  refine ⟨start, l, m, new, run, flush, matched.unmatched_eq_nil, ?_, fun maxSpan p visit => ?_⟩
  · have sound : ∀ e ∈ m.events, e.planes = config.planes := by
      rw [settled.events, before, fresh, List.nil_append, ← spanning]
      exact fun e member => (settled.sound e member).2.1
    exact (List.forall₂_and_left _ _).mpr ⟨sound, lined⟩
  · obtain ⟨_, _, chained, _⟩ := visit.reach.lined rule apart
      (Matcher.sortByEnd_tracked timed.tracked) (Matcher.sortByEnd_sorted _)
    exact chained.deferred

/-- Two clusters of one plane and one of the other follow each other closely, though they come in no order. The last
one is too late for them. -/
theorem flush_closes_end_runs_pair :
    let commands := [Command.insert 1 [.ofHits [⟨20, 1, 4, 1⟩], .ofHits [⟨5, 1, 4, 1⟩]],
      .insertCluster (.ofHits [⟨9, 0, 4, 1⟩]), .insertCluster (.ofHits [⟨1, 0, 4, 1⟩, ⟨5, 0, 4, 1⟩])]
    ∃ start l m, Matcher.ofRule (MatchPolicy.endProximity 4).rule {} = .ok start ∧
      performAll { matcher := start } commands = .ok l ∧ l.matcher.flush = .ok m ∧ m.unmatched = [] ∧
      m.events.map (·.slots.map (·.2.hits)) =
        [[[⟨1, 0, 4, 1⟩, ⟨5, 0, 4, 1⟩, ⟨9, 0, 4, 1⟩], [⟨5, 1, 4, 1⟩]], [[], [⟨20, 1, 4, 1⟩]]] ∧
      List.Forall₂ (fun e run => e.planes = [0, 1] ∧
          ∀ slot ∈ e.slots, slot.2.hits = (run.filter (·.plane == some slot.1)).flatMap Cluster.hits)
        m.events (endRuns 4 (commands.flatMap (·.accepted [0, 1]))) := by
  intro commands
  have runs : ((Matcher.ofRule (MatchPolicy.endProximity 4).rule {}).toOption.bind fun start =>
      (performAll { matcher := start } commands).toOption.bind fun l => l.matcher.flush.toOption.map fun m =>
        m.events.map (·.slots.map (·.2.hits))) =
      some [[[⟨1, 0, 4, 1⟩, ⟨5, 0, 4, 1⟩, ⟨9, 0, 4, 1⟩], [⟨5, 1, 4, 1⟩]], [[], [⟨20, 1, 4, 1⟩]]] := by
    decide +kernel
  obtain ⟨start, new, runs⟩ := Option.bind_eq_some_iff.mp runs
  obtain ⟨l, run, runs⟩ := Option.bind_eq_some_iff.mp runs
  obtain ⟨m, flush, slots⟩ := Option.map_eq_some_iff.mp runs
  obtain ⟨start', l', m', new', run', flush', nothing, events, _⟩ := flush_closes_end_runs 4 {} commands
    (by simp [commands, Command.inserts]) rfl (by simp [commands, Command.clusters, Cluster.Built.ofHits]) (by decide)
  rw [eq_ok_of_toOption new] at new'
  cases new'
  rw [eq_ok_of_toOption run] at run'
  cases run'
  rw [eq_ok_of_toOption flush] at flush'
  cases flush'
  exact ⟨start, l, m, eq_ok_of_toOption new, eq_ok_of_toOption run, eq_ok_of_toOption flush, nothing, slots, events⟩

end Ledger

end EventFormation
