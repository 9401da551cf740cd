import EventFormation.Proofs.Cluster.Runs
import EventFormation.Proofs.Formation.Accounts
import EventFormation.Proofs.Matching.Cuts

namespace EventFormation

namespace Clusterer

/-- What an earlier run has counted. -/
structure Past where
  hitsProcessed : Nat
  clustersFound : Nat

/-- The same clusterer with a past. -/
def after (c : Clusterer) (past : Past) : Clusterer :=
  { c with
    hitsProcessed := past.hitsProcessed + c.hitsProcessed
    clustersFound := past.clustersFound + c.clustersFound }

variable {c : Clusterer} {past : Past}

theorem flush_after : (c.after past).flush = c.flush.after past := by
  simp only [flush, after, completed, group, Nat.add_assoc]

theorem insert_after (hit : Hit) : (c.after past).insert hit = (c.insert hit).after past := by
  have starts : (c.after past).startsGroup hit = c.startsGroup hit := rfl
  rw [insert, insert, starts]
  split
  · rw [flush_after]
    simp only [after, Nat.add_assoc]
  · simp only [after, Nat.add_assoc]

/-- A clusterer that holds nothing is a new one with a past. -/
theorem eq_after_of_idle (group : c.group = []) (clusters : c.clusters = []) :
    c = ({ config := c.config } : Clusterer).after ⟨c.hitsProcessed, c.clustersFound⟩ := by
  obtain ⟨config, ⟨arrivals⟩, ⟨finished⟩, processed, found⟩ := c
  have none : arrivals = [] := List.reverse_eq_nil_iff.mp group
  have none' : finished = [] := List.reverse_eq_nil_iff.mp clusters
  subst none none'
  rfl

end Clusterer

namespace FormationStatistics

/-- What two runs have done together. -/
def add (s t : FormationStatistics) : FormationStatistics where
  hits := s.hits + t.hits
  rejectedHits := s.rejectedHits + t.rejectedHits
  clusters := s.clusters + t.clusters
  events := s.events + t.events
  goodEvents := s.goodEvents + t.goodEvents
  badEvents := s.badEvents + t.badEvents

theorem count_add (s t : FormationStatistics) (reduced : List ReducedEvent) :
    (s.add t).count reduced = s.add (t.count reduced) := by
  simp only [count, add, Nat.add_assoc]

end FormationStatistics

namespace EventBuilder

/-- What an earlier run leaves in a builder that holds nothing. -/
structure Past where
  clusterer : UInt8 → Clusterer.Past
  matcher : Matcher.Past
  statistics : FormationStatistics

/-- The same builder with a past. -/
def after (b : EventBuilder) (past : Past) : EventBuilder :=
  { b with
    clusterers := b.clusterers.map fun entry => (entry.1, entry.2.after (past.clusterer entry.1))
    matcher := b.matcher.after past.matcher
    statistics := past.statistics.add b.statistics }

/-- What a caller gets to see of a call. -/
inductive Answer
  | /-- Whether the hit was added. -/ inserted (added : Bool)
  | reduced (events : List ReducedEvent)

def answer (b : EventBuilder) (events : List ReducedEvent) : Call → Answer
  | .insert hit => .inserted (b.tracks hit.plane)
  | .push _ | .process | .flush => .reduced events

/-- What a caller gets to see of calls, up to a fault, and the builder as it is then. -/
def answers (b : EventBuilder) : List Call → List (Except Fault Answer) × EventBuilder
  | [] => ([], b)
  | call :: rest =>
    match b.perform call with
    | .error fault => ([.error fault], b)
    | .ok (events, next) => (.ok (b.answer events call) :: (next.answers rest).1, (next.answers rest).2)

variable {config : FormationConfig} {before : List Hit} {past : Past} {b : EventBuilder} {call : Call}

theorem tracks_after (plane : UInt8) : (b.after past).tracks plane = b.tracks plane := by
  simp [tracks, after, Function.comp_def]

theorem insertInto_after (hit : Hit) (clusterer : UInt8 → Clusterer.Past) (clusterers : List (UInt8 × Clusterer)) :
    insertInto hit (clusterers.map fun entry => (entry.1, entry.2.after (clusterer entry.1))) =
      (insertInto hit clusterers).map fun entry => (entry.1, entry.2.after (clusterer entry.1)) := by
  induction clusterers with
  | nil => rfl
  | cons entry rest ih =>
    rw [List.map_cons, insertInto, insertInto]
    dsimp only
    split
    · rw [List.map_cons, Clusterer.insert_after]
    · rw [List.map_cons, ih]

theorem insert_after (hit : Hit) : (b.after past).insert hit = (b.insert hit).after past := by
  rw [EventBuilder.insert, EventBuilder.insert, tracks_after]
  split
  · simp only [after, insertInto_after, FormationStatistics.add, Nat.add_assoc]
  · simp only [after, FormationStatistics.add, Nat.add_assoc]

theorem insertAll_after (hits : List Hit) : (b.after past).insertAll hits = (b.insertAll hits).after past := by
  induction hits generalizing b with
  | nil => rfl
  | cons hit rest ih =>
    show ((b.after past).insert hit).insertAll rest = ((b.insert hit).insertAll rest).after past
    rw [insert_after, ih]

theorem flushClusterers_after : (b.after past).flushClusterers = b.flushClusterers.after past := by
  simp only [flushClusterers, after, List.map_map, Function.comp_def, Clusterer.flush_after]

theorem moveClusters_after : (b.after past).moveClusters = b.moveClusters.after past := by
  have handed : (b.after past).deliveries = b.deliveries := by
    rw [deliveries, after, List.map_map]
    rfl
  have matcher : (b.after past).moveClusters.matcher = b.moveClusters.matcher.after past.matcher := by
    rw [matcher_moveClusters, matcher_moveClusters, handed]
    exact Matcher.insertAll_after _
  have clusterers : (b.after past).moveClusters.clusterers = (b.moveClusters.after past).clusterers := by
    simp only [moveClusters, after, List.map_map]
    rfl
  have statistics : (b.after past).moveClusters.statistics = past.statistics.add b.moveClusters.statistics := by
    simp only [moveClusters, after, FormationStatistics.add, List.flatMap_map, Nat.add_assoc]
    rfl
  show EventBuilder.mk _ _ _ _ = EventBuilder.mk _ _ _ _
  rw [mk.injEq]
  exact ⟨clusterers, matcher, rfl, statistics⟩

theorem handedOn_after (call : Call) : (b.after past).handedOn call = (b.handedOn call).after past := by
  cases call with
  | insert hit => exact insert_after hit
  | push hits => rw [handedOn, insertAll_after, moveClusters_after]; rfl
  | process => exact moveClusters_after
  | flush => rw [handedOn, flushClusterers_after, moveClusters_after]; rfl

theorem reduceEvents_after :
    (b.after past).reduceEvents = b.reduceEvents.map fun run => (run.1, run.2.after past) := by
  rw [reduceEvents_eq, reduceEvents_eq]
  show (b.matcher.events.mapM b.reduction.reduce).map _ = _
  cases b.matcher.events.mapM b.reduction.reduce with
  | error fault => rfl
  | ok reduced =>
    refine congrArg Except.ok ?_
    simp only [after, FormationStatistics.count_add]
    rfl

/-- A call does the same with a past, if no plane had passed any of the clusters that it comes to match. -/
theorem perform_after
    (late : ∀ c ∈ (b.handedOn call).matcher.unmatched, ∀ entry ∈ (b.handedOn call).matcher.progress,
      past.matcher.latest entry.1 ≤ c.timeEnd) :
    (b.after past).perform call = (b.perform call).map fun run => (run.1, run.2.after past) := by
  cases matching : call.flushing? with
  | none =>
    cases call <;> cases matching
    show Except.ok ([], (b.after past).insert _) = _
    rw [insert_after]
    rfl
  | some flushing =>
    rw [perform_eq_bind matching, perform_eq_bind matching, handedOn_after]
    show (((b.handedOn call).matcher.after past.matcher).matchQueue flushing >>= _) = _
    rw [Matcher.matchQueue_after late]
    cases (b.handedOn call).matcher.matchQueue flushing with
    | error fault => rfl
    | ok m => exact @reduceEvents_after past { b.handedOn call with matcher := m }

/-- No plane had passed a cluster of hits that are not earlier than any before. -/
theorem Running.late (running : Running config before b)
    (early : ∀ plane ∈ config.planes, ∀ hit ∈ before, past.matcher.latest plane ≤ hit.time) :
    ∀ c ∈ b.matcher.unmatched, ∀ entry ∈ b.matcher.progress, past.matcher.latest entry.1 ≤ c.timeEnd := by
  intro c queued entry member
  have tracked := running.follows.queued c queued
  obtain ⟨hit, atHit⟩ := List.exists_mem_of_ne_nil c.hits tracked.hits_ne_nil
  have seen := running.inside (List.mem_flatMap.mpr ⟨c, queued, atHit⟩)
  have plane : entry.1 ∈ config.planes := by
    rw [← running.follows.spanning]
    exact List.mem_map_of_mem member
  exact UInt64.le_trans (early entry.1 plane hit seen) (tracked.faithful.time_le_timeEnd atHit)

/-- A run of calls does the same with a past, if its hits are not earlier than that. -/
theorem Running.answers_after (running : Running config before b) (calls : List Call)
    (early : ∀ plane ∈ config.planes, ∀ hit ∈ before ++ calls.flatMap Call.hits,
      past.matcher.latest plane ≤ hit.time) :
    (b.after past).answers calls = ((b.answers calls).1, (b.answers calls).2.after past) := by
  induction calls generalizing before b with
  | nil => rfl
  | cons call rest ih =>
    rw [List.flatMap_cons, ← List.append_assoc] at early
    have late := (running.handedOn call).late fun plane tracked hit seen =>
      early plane tracked hit (List.mem_append_left _ seen)
    have answer (events : List ReducedEvent) : (b.after past).answer events call = b.answer events call := by
      cases call with
      | insert hit => exact congrArg Answer.inserted (tracks_after hit.plane)
      | push hits => rfl
      | process => rfl
      | flush => rfl
    rw [answers, answers, perform_after late]
    cases run : b.perform call with
    | error fault => rfl
    | ok result =>
      obtain ⟨events, next⟩ := result
      have others := ih (running.perform run) early
      simp only [Except.map, others, answer]

/-- The settings that no call changes. -/
structure Configured (config : FormationConfig) (b : EventBuilder) : Prop where
  minimumQueued : b.matcher.minimumQueued = config.matching.minimumQueued
  clusterers : ∀ entry ∈ b.clusterers, entry.2.config = config.clusters

theorem Configured.insert (configured : Configured config b) (hit : Hit) : Configured config (b.insert hit) where
  minimumQueued := by rw [matcher_insert, configured.minimumQueued]
  clusterers := by
    have kept (clusterers : List (UInt8 × Clusterer)) (same : ∀ entry ∈ clusterers, entry.2.config = config.clusters) :
        ∀ entry ∈ insertInto hit clusterers, entry.2.config = config.clusters := by
      induction clusterers with
      | nil => exact same
      | cons first rest ih =>
        rw [List.forall_mem_cons] at same
        unfold insertInto
        split
        · exact List.forall_mem_cons.mpr ⟨(first.2.config_insert hit).trans same.1, same.2⟩
        · exact List.forall_mem_cons.mpr ⟨same.1, ih same.2⟩
    unfold EventBuilder.insert
    split
    · exact kept b.clusterers configured.clusterers
    · exact configured.clusterers

theorem Configured.insertAll (configured : Configured config b) (hits : List Hit) :
    Configured config (b.insertAll hits) :=
  List.foldlRecOn (motive := Configured config) hits EventBuilder.insert configured fun _ kept hit _ => kept.insert hit

theorem Configured.flushClusterers (configured : Configured config b) : Configured config b.flushClusterers :=
  ⟨configured.minimumQueued, List.forall_mem_map.mpr configured.clusterers⟩

theorem Configured.moveClusters (configured : Configured config b) (running : Running config before b) :
    Configured config b.moveClusters where
  minimumQueued := by
    rw [matcher_moveClusters, (Matcher.insertAll_delivered running.follows.proper).minimumQueued,
      configured.minimumQueued]
  clusterers := List.forall_mem_map.mpr configured.clusterers

theorem Configured.handedOn (configured : Configured config b) (running : Running config before b) (call : Call) :
    Configured config (b.handedOn call) := by
  cases call with
  | insert hit => exact configured.insert hit
  | push hits => exact (configured.insertAll hits).moveClusters (running.insertAll hits)
  | process => exact configured.moveClusters running
  | flush => exact configured.flushClusterers.moveClusters running.flushClusterers

theorem Configured.performAll (configured : Configured config b) (running : Running config before b)
    {calls : List Call} {returned : List ReducedEvent} {q : EventBuilder}
    (run : b.performAll calls = .ok (returned, q)) : Configured config q := by
  induction calls generalizing before b returned with
  | nil =>
    cases run
    exact configured
  | cons call rest ih =>
    obtain ⟨first, middle, others, atFirst, atOthers, _⟩ := performAll_cons_eq_ok run
    refine ih ?_ (running.perform atFirst) atOthers
    have handed := configured.handedOn running call
    rcases running.perform_cases atFirst with ⟨_, _, rfl⟩ | ⟨flushing, m, events, _, _, settled, _, _, rfl⟩
    · exact handed
    · exact ⟨settled.minimumQueued.trans handed.minimumQueued, handed.clusterers⟩

theorem Configured.start (new : ofConfig config = .ok b) : Configured config b := by
  obtain ⟨_, rfl⟩ := ofConfig_eq_ok new
  refine ⟨rfl, fun entry member => ?_⟩
  obtain ⟨plane, _, rfl⟩ := List.mem_map.mp member
  rfl

/-- What is listed for each plane once is a function of the planes. -/
theorem exists_eq_map {α : Type} [Nonempty α] {entries : List (UInt8 × α)} (distinct : (entries.map (·.1)).Nodup) :
    ∃ value : UInt8 → α, entries = (entries.map (·.1)).map fun plane => (plane, value plane) := by
  induction entries with
  | nil => exact ⟨fun _ => Classical.arbitrary α, rfl⟩
  | cons entry rest ih =>
    obtain ⟨fresh, apart⟩ := List.nodup_cons.mp distinct
    obtain ⟨value, others⟩ := ih apart
    refine ⟨Function.update value entry.1 entry.2, ?_⟩
    rw [List.map_cons, List.map_cons, Function.update_self]
    refine congrArg (entry :: ·) (others.trans (List.map_congr_left fun plane member => ?_))
    rw [Function.update_of_ne]
    rintro rfl
    exact fresh member

/-- A builder that holds nothing is a new one with a past, in which its planes have come to hits that were seen. -/
theorem Running.exists_past {start cut : EventBuilder} (running : Running config before cut)
    (configured : Configured config cut) (idle : cut.Idle) (new : ofConfig config = .ok start) :
    ∃ past : Past, cut = start.after past ∧ ∀ plane ∈ config.planes,
      past.matcher.latest plane = 0 ∨ ∃ hit ∈ before, hit.time = past.matcher.latest plane := by
  have follows := running.follows
  have some : Nonempty Clusterer := ⟨{ config := config.clusters }⟩
  have planes : (cut.matcher.progress.map (·.1)) = config.planes := follows.spanning
  obtain ⟨clusterer, clusterers⟩ := @exists_eq_map Clusterer _ cut.clusterers (by
    rw [follows.planes]
    exact follows.distinct)
  obtain ⟨latest, progress⟩ := @exists_eq_map UInt64 _ cut.matcher.progress (by
    rw [planes]
    exact follows.distinct)
  rw [follows.planes] at clusterers
  rw [planes] at progress
  have inClusterers {plane : UInt8} (tracked : plane ∈ config.planes) : (plane, clusterer plane) ∈ cut.clusterers := by
    rw [clusterers]
    exact List.mem_map_of_mem tracked
  refine ⟨⟨fun plane => ⟨(clusterer plane).hitsProcessed, (clusterer plane).clustersFound⟩,
    ⟨latest, cut.matcher.eventCount, cut.matcher.rejected⟩, cut.statistics⟩, ?_, fun plane tracked => ?_⟩
  · obtain ⟨_, rfl⟩ := ofConfig_eq_ok new
    show EventBuilder.mk _ _ _ _ = EventBuilder.mk _ _ _ _
    rw [mk.injEq]
    refine ⟨?_, ?_, running.reduction, rfl⟩
    · rw [clusterers, List.map_map]
      refine List.map_congr_left fun plane tracked => congrArg (plane, ·) ?_
      have same := configured.clusterers _ (inClusterers tracked)
      have group := List.flatMap_eq_nil_iff.mp idle.openHits _ (inClusterers tracked)
      have finished := List.flatMap_eq_nil_iff.mp idle.finished _ (inClusterers tracked)
      exact same ▸ Clusterer.eq_after_of_idle group finished
    · have same := Matcher.eq_after_of_idle progress idle.unmatched idle.taken
      rw [running.rule, follows.latency, configured.minimumQueued, idle.unmatched, idle.taken] at same
      exact same
  · obtain ⟨ended, split, _, start⟩ := follows.behind _ (inClusterers tracked) (latest plane) (by
      rw [progress]
      exact List.mem_map_of_mem tracked)
    refine start.imp_right fun ⟨hit, member, same⟩ => ⟨hit, ?_, same⟩
    have seen : hit ∈ before.filter (·.plane == plane) := by
      rw [split]
      exact List.mem_append_left _ member
    exact (List.mem_filter.mp seen).1

/-- A flush is a clean cut. Calls that come after it, with no hit earlier than one before it, get the answers that a
new builder gives and leave the same behind: only how far the planes have come is kept, and the totals are added. -/
theorem flush_cuts {start cut : EventBuilder} {earlier calls : List Call} {returned : List ReducedEvent}
    (new : ofConfig config = .ok start) (run : start.performAll (earlier ++ [.flush]) = .ok (returned, cut))
    (later : ∀ old ∈ earlier.flatMap Call.hits, ∀ hit ∈ calls.flatMap Call.hits, old.time ≤ hit.time) :
    let fresh := (start.answers calls).2
    let resumed := (cut.answers calls).2
    (cut.answers calls).1 = (start.answers calls).1 ∧
      resumed.matcher.unmatched = fresh.matcher.unmatched ∧
      resumed.matcher.events = fresh.matcher.events ∧
      (resumed.clusterers.map fun entry => (entry.1, entry.2.group, entry.2.clusters)) =
        (fresh.clusterers.map fun entry => (entry.1, entry.2.group, entry.2.clusters)) ∧
      resumed.statistics = cut.statistics.add fresh.statistics ∧
      resumed.matcher.eventCount = cut.matcher.eventCount + fresh.matcher.eventCount ∧
      resumed.matcher.rejected = cut.matcher.rejected + fresh.matcher.rejected ∧
      ∃ past : Past, cut = start.after past ∧ resumed = fresh.after past := by
  intro fresh resumed
  have fromStart := Running.start new
  have running := fromStart.performAll run
  rw [List.flatMap_append, List.flatMap_singleton, Call.hits, List.append_nil, List.nil_append] at running
  obtain ⟨past, same, reached⟩ :=
    running.exists_past ((Configured.start new).performAll fromStart run) (fromStart.idle_of_flushed run) new
  have both : cut.answers calls = ((start.answers calls).1, fresh.after past) := by
    rw [same]
    refine fromStart.answers_after calls fun plane tracked hit given => ?_
    rcases reached plane tracked with none | ⟨old, seen, atOld⟩
    · rw [none]
      exact UInt64.zero_le
    · rw [← atOld]
      exact later old seen hit given
  have after : resumed = fresh.after past := congrArg (·.2) both
  have totals : cut.statistics = past.statistics ∧ cut.matcher.eventCount = past.matcher.eventCount ∧
      cut.matcher.rejected = past.matcher.rejected := by
    rw [same]
    obtain ⟨_, rfl⟩ := ofConfig_eq_ok new
    exact ⟨rfl, rfl, rfl⟩
  obtain ⟨statistics, eventCount, rejected⟩ := totals
  rw [statistics, eventCount, rejected, after]
  refine ⟨congrArg (·.1) both, rfl, rfl, ?_, rfl, rfl, rfl, past, same, rfl⟩
  rw [EventBuilder.after, List.map_map]
  rfl

/-- Two tracks are flushed and two more come. The planes of the new builder have to catch up with the old one, and
both match the same. -/
theorem flush_cuts_tracks :
    let earlier : List Call := [.push [⟨1, 0, 4, 1⟩, ⟨2, 1, 4, 1⟩, ⟨1000, 0, 4, 1⟩, ⟨1000, 1, 4, 1⟩]]
    let calls : List Call :=
      [.push [⟨1000, 0, 5, 1⟩, ⟨9000, 1, 4, 1⟩], .insert ⟨9000, 7, 4, 1⟩, .process, .flush]
    ∃ start returned cut, ofConfig {} = .ok start ∧ start.performAll (earlier ++ [.flush]) = .ok (returned, cut) ∧
      start.matcher.horizon = 0 ∧ cut.matcher.horizon = 1000 ∧
      (start.answers calls).1.length = 4 ∧ (cut.answers calls).1 = (start.answers calls).1 ∧
      cut.statistics.events = 2 ∧ (start.answers calls).2.statistics.events = 2 ∧
      (cut.answers calls).2.statistics.events = 4 := by
  intro earlier calls
  have runs : ((ofConfig {}).toOption.bind fun start =>
      (start.performAll (earlier ++ [.flush])).toOption.map fun run =>
        (start.matcher.horizon, run.2.matcher.horizon, (start.answers calls).1.length, run.2.statistics.events,
          (start.answers calls).2.statistics.events)) = some (0, 1000, 4, 2, 2) := by decide +kernel
  obtain ⟨start, new, runs⟩ := Option.bind_eq_some_iff.mp runs
  obtain ⟨⟨returned, cut⟩, run, values⟩ := Option.map_eq_some_iff.mp runs
  simp only [Prod.mk.injEq] at values
  obtain ⟨fresh, horizon, given, old, recent⟩ := values
  have new := eq_ok_of_toOption new
  have run := eq_ok_of_toOption run
  obtain ⟨same, _, _, _, statistics, _⟩ := @flush_cuts {} start cut earlier calls returned new run (by decide +kernel)
  refine ⟨start, returned, cut, new, run, fresh, horizon, given, same, old, recent, ?_⟩
  rw [statistics, FormationStatistics.add, old, recent]

end EventBuilder

end EventFormation
