import EventFormation.Proofs.Cluster.Groups
import EventFormation.Proofs.Config.Checked
import EventFormation.Proofs.Formation.Calls

namespace EventFormation

namespace Clusterer

/-- The hits seen on a plane are those whose time-groups have ended, then the open time-group. What
is handed on, and so the latest start, comes from time-groups that have ended. -/
def Behind (seen : List Hit) (c : Clusterer) (latest : UInt64) : Prop :=
  ∃ ended, seen = ended ++ c.group ∧ (∀ d ∈ c.clusters, d.Faithful ∧ d.hits ≠ [] ∧ d.hits ⊆ ended) ∧
    (latest = 0 ∨ ∃ hit ∈ ended, hit.time = latest)

variable {seen : List Hit} {c : Clusterer} {latest : UInt64}

theorem completed_faithful : ∀ d ∈ c.completed, d.Faithful ∧ d.hits ≠ [] ∧ d.hits ⊆ c.group := by
  intro d member
  obtain ⟨built, some⟩ := groupClusters_built member
  refine ⟨built.faithful, some, fun hit inside => ?_⟩
  exact c.completed_hits_perm.subset (List.mem_flatMap.mpr ⟨d, member, inside⟩)

theorem Behind.flush (behind : Behind seen c latest) : Behind seen c.flush latest := by
  obtain ⟨ended, split, clusters, start⟩ := behind
  refine ⟨ended ++ c.group, by rw [group_flush, List.append_nil, split], ?_, ?_⟩
  · intro d member
    rw [clusters_flush, List.mem_append] at member
    rcases member with old | new
    · obtain ⟨faithful, some, inside⟩ := clusters d old
      exact ⟨faithful, some, fun hit there => List.mem_append_left _ (inside there)⟩
    · obtain ⟨faithful, some, inside⟩ := completed_faithful d new
      exact ⟨faithful, some, fun hit there => List.mem_append_right _ (inside there)⟩
  · exact start.imp_right fun ⟨hit, member, same⟩ => ⟨hit, List.mem_append_left _ member, same⟩

/-- A hit that comes too late ends the open time-group first. -/
theorem insert_eq (c : Clusterer) (hit : Hit) :
    (c.insert hit).group = (if c.startsGroup hit then c.flush else c).group ++ [hit] ∧
      (c.insert hit).clusters = (if c.startsGroup hit then c.flush else c).clusters := by
  rw [group_insert, clusters_insert]
  split <;> simp

theorem Behind.insert (behind : Behind seen c latest) (hit : Hit) :
    Behind (seen ++ [hit]) (c.insert hit) latest := by
  obtain ⟨group, clusters⟩ := c.insert_eq hit
  have ready : Behind seen (if c.startsGroup hit then c.flush else c) latest := by
    split
    · exact behind.flush
    · exact behind
  obtain ⟨ended, split, inside, start⟩ := ready
  refine ⟨ended, by rw [group, split, List.append_assoc], ?_, start⟩
  rw [clusters]
  exact inside

theorem Behind.take (behind : Behind seen c latest) {next : UInt64}
    (new : next = latest ∨ ∃ d ∈ c.clusters, next = d.timeStart) : Behind seen c.take.2 next := by
  obtain ⟨ended, split, clusters, start⟩ := behind
  refine ⟨ended, split, by simp, ?_⟩
  rcases new with rfl | ⟨d, member, rfl⟩
  · exact start
  · obtain ⟨faithful, some, inside⟩ := clusters d member
    obtain ⟨hit, first, same⟩ := faithful.exists_timeStart some
    exact Or.inr ⟨hit, inside first, same⟩

/-- All hits that have not been handed on. -/
def pending (c : Clusterer) : List Hit := c.clusters.flatMap Cluster.hits ++ c.group

end Clusterer

namespace EventBuilder

/-- A builder that has seen these hits, between two calls. -/
structure Follows (config : FormationConfig) (before : List Hit) (b : EventBuilder) : Prop where
  distinct : config.planes.Nodup
  planes : b.clusterers.map (·.1) = config.planes
  spanning : b.matcher.planes = config.planes
  latency : b.matcher.latency = config.matching.latency
  queued : ∀ c ∈ b.matcher.unmatched, c.Tracked config.planes
  behind : ∀ entry ∈ b.clusterers, ∀ latest, (entry.1, latest) ∈ b.matcher.progress →
    entry.2.Behind (before.filter (·.plane == entry.1)) latest

variable {config : FormationConfig} {before : List Hit} {b q : EventBuilder}

theorem Follows.insert (follows : Follows config before b) (hit : Hit) :
    Follows config (before ++ [hit]) (b.insert hit) := by
  have clusterers := clusterers_insert (by rw [follows.planes]; exact follows.distinct) hit
  refine ⟨follows.distinct, ?_, ?_, ?_, ?_, ?_⟩
  · rw [clusterers, List.map_map, ← follows.planes]
    rfl
  · rw [matcher_insert, follows.spanning]
  · rw [matcher_insert, follows.latency]
  · rw [matcher_insert]
    exact follows.queued
  · intro entry member latest there
    rw [clusterers] at member
    obtain ⟨old, inside, rfl⟩ := List.mem_map.mp member
    rw [matcher_insert] at there
    have behind := follows.behind old inside latest there
    rw [List.filter_append]
    by_cases own : (old.1 == hit.plane) = true
    · have same : (hit.plane == old.1) = true := by rw [BEq.comm]; exact own
      simp only [own, if_true, List.filter_cons, same, List.filter_nil]
      exact behind.insert hit
    · have apart : ¬ (hit.plane == old.1) = true := by rw [BEq.comm]; exact own
      simp only [own, List.filter_cons, apart, List.filter_nil, List.append_nil, Bool.false_eq_true,
        if_false]
      exact behind

theorem Follows.insertAll (follows : Follows config before b) (hits : List Hit) :
    Follows config (before ++ hits) (b.insertAll hits) := by
  induction hits generalizing before b with
  | nil => rwa [List.append_nil]
  | cons hit rest ih =>
    rw [List.append_cons]
    exact ih (follows.insert hit)

theorem Follows.flushClusterers (follows : Follows config before b) :
    Follows config before b.flushClusterers where
  distinct := follows.distinct
  planes := by
    rw [← follows.planes]
    exact List.map_map
  spanning := follows.spanning
  latency := follows.latency
  queued := follows.queued
  behind := by
    intro entry member latest there
    obtain ⟨old, inside, rfl⟩ := List.mem_map.mp member
    exact (follows.behind old inside latest there).flush

/-- Each clusterer has an entry of how far its plane has come. -/
theorem Follows.exists_latest (follows : Follows config before b) {entry : UInt8 × Clusterer}
    (member : entry ∈ b.clusterers) : ∃ latest, (entry.1, latest) ∈ b.matcher.progress := by
  have tracked : entry.1 ∈ b.matcher.planes := by
    rw [follows.spanning, ← follows.planes]
    exact List.mem_map_of_mem member
  obtain ⟨⟨plane, latest⟩, inside, same⟩ := List.mem_map.mp tracked
  cases same
  exact ⟨latest, inside⟩

theorem Follows.proper (follows : Follows config before b) :
    ∀ part ∈ b.deliveries, Matcher.Proper b.matcher.planes part := by
  intro part member
  obtain ⟨entry, inside, rfl⟩ := List.mem_map.mp member
  obtain ⟨latest, there⟩ := follows.exists_latest inside
  obtain ⟨ended, split, clusters, _⟩ := follows.behind entry inside latest there
  refine ⟨by rw [follows.spanning, ← follows.planes]; exact List.mem_map_of_mem inside, ?_⟩
  intro c handed
  obtain ⟨faithful, some, within⟩ := clusters c handed
  refine ⟨faithful, (faithful.plane entry.1).mpr ⟨some, fun hit atHit => ?_⟩⟩
  have seen : hit ∈ before.filter (·.plane == entry.1) := by
    rw [split]
    exact List.mem_append_left _ (within atHit)
  simpa using (List.mem_filter.mp seen).2

theorem Follows.moveClusters (follows : Follows config before b) : Follows config before b.moveClusters := by
  have delivered := Matcher.insertAll_delivered follows.proper
  rw [← matcher_moveClusters] at delivered
  refine ⟨follows.distinct, ?_, delivered.planes.trans follows.spanning,
    delivered.latency.trans follows.latency, ?_, ?_⟩
  · rw [← follows.planes]
    exact List.map_map
  · intro c member
    rw [delivered.unmatched, List.mem_append] at member
    rcases member with old | new
    · exact follows.queued c old
    · obtain ⟨part, given, handed⟩ := List.mem_flatMap.mp new
      obtain ⟨tracked, own⟩ := follows.proper part given
      rw [follows.spanning] at tracked
      exact ⟨(own c handed).1, part.1, tracked, (own c handed).2⟩
  · intro entry member latest there
    obtain ⟨old, inside, rfl⟩ := List.mem_map.mp member
    obtain ⟨earlier, there', new⟩ := delivered.progress _ there
    refine (follows.behind old inside earlier there').take ?_
    refine new.imp_right ?_
    rintro ⟨clusters, given, c, handed, start⟩
    obtain ⟨other, inside', same⟩ := List.mem_map.mp given
    have plane : other.1 = old.1 := (Prod.ext_iff.mp same).1
    have clusters : other.2.clusters = clusters := (Prod.ext_iff.mp same).2
    have apart : (b.clusterers.map (·.1)).Nodup := by
      rw [follows.planes]
      exact follows.distinct
    rw [← clusters, List.inj_on_of_nodup_map apart inside' inside plane] at handed
    exact ⟨c, handed, start⟩

/-- Matching moves no clusterer and no latest start. -/
theorem Follows.settle (follows : Follows config before b) {m : Matcher} {events : List Event}
    (settled : b.matcher.Settled m events) : Follows config before { b with matcher := m } where
  distinct := follows.distinct
  planes := follows.planes
  spanning := by
    rw [← follows.spanning, Matcher.planes, Matcher.planes, settled.progress]
  latency := settled.latency.trans follows.latency
  queued := by
    rw [← follows.spanning]
    exact settled.queued
  behind := by
    rw [settled.progress]
    exact follows.behind

theorem Follows.reduceEvents (follows : Follows config before b) {reduced : List ReducedEvent}
    (run : b.reduceEvents = .ok (reduced, q)) : Follows config before q := by
  obtain ⟨_, rfl⟩ := reduceEvents_eq_ok run
  exact ⟨follows.distinct, follows.planes, follows.spanning, follows.latency, follows.queued, follows.behind⟩

theorem Follows.matchQueue (follows : Follows config before b) {flushing : Bool} {m : Matcher}
    (run : b.matcher.matchQueue flushing = .ok m) :
    b.matcher.Matched flushing m ∧ Follows config before { b with matcher := m } := by
  have tracked : ∀ c ∈ b.matcher.unmatched, c.Tracked b.matcher.planes := by
    rw [follows.spanning]
    exact follows.queued
  have distinct : b.matcher.planes.Nodup := by
    rw [follows.spanning]
    exact follows.distinct
  have matched := Matcher.matchQueue_matched distinct tracked run
  obtain ⟨events, settled⟩ := matched.settled tracked
  exact ⟨matched, follows.settle settled⟩

theorem Follows.pollMatcher (follows : Follows config before b) (run : b.pollMatcher = .ok q) :
    Follows config before q := by
  obtain ⟨m, poll, rfl⟩ := pollMatcher_eq_ok run
  exact (follows.moveClusters.matchQueue poll).2

theorem Follows.perform (follows : Follows config before b) {call : Call} {reduced : List ReducedEvent}
    (run : b.perform call = .ok (reduced, q)) : Follows config (before ++ call.hits) q := by
  cases call with
  | insert hit =>
    cases run
    exact follows.insert hit
  | push hits =>
    obtain ⟨polled, poll, reduce⟩ := process_eq_ok run
    exact ((follows.insertAll hits).pollMatcher poll).reduceEvents reduce
  | process =>
    obtain ⟨polled, poll, reduce⟩ := process_eq_ok run
    rw [Call.hits, List.append_nil]
    exact (follows.pollMatcher poll).reduceEvents reduce
  | flush =>
    obtain ⟨flushed, flush, reduce⟩ := flush_eq_ok run
    obtain ⟨m, matching, rfl⟩ := flushMatcher_eq_ok flush
    rw [Call.hits, List.append_nil]
    exact (follows.flushClusterers.moveClusters.matchQueue matching).2.reduceEvents reduce

theorem Follows.performAll (follows : Follows config before b) {calls : List Call}
    {reduced : List ReducedEvent} (run : b.performAll calls = .ok (reduced, q)) :
    Follows config (before ++ calls.flatMap Call.hits) q := by
  induction calls generalizing before b reduced with
  | nil =>
    cases run
    simpa using follows
  | cons call rest ih =>
    obtain ⟨first, middle, others, atFirst, atOthers, _⟩ := performAll_cons_eq_ok run
    rw [List.flatMap_cons, ← List.append_assoc]
    exact ih (follows.perform atFirst) atOthers

theorem Follows.start (new : ofConfig config = .ok b) : Follows config [] b := by
  obtain ⟨valid, rfl⟩ := ofConfig_eq_ok new
  obtain ⟨_, matching, _⟩ := bind_eq_ok_iff.mp valid
  refine ⟨(MatchConfig.planesChecked_of_check matching).distinct, ?_, ?_, rfl, by simp, ?_⟩
  · simp [Function.comp_def]
  · simp [Matcher.planes, Function.comp_def, FormationConfig.planes]
  · intro entry member latest there
    obtain ⟨plane, _, rfl⟩ := List.mem_map.mp member
    obtain ⟨other, _, same⟩ := List.mem_map.mp there
    cases same
    exact ⟨[], rfl, by simp [Clusterer.clusters], Or.inl rfl⟩

end EventBuilder

end EventFormation
