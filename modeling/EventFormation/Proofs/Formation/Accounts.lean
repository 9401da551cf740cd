import EventFormation.Proofs.Formation.Running

namespace EventFormation

namespace Clusterer

variable {c : Clusterer}

theorem pending_flush_perm : c.flush.pending.Perm c.pending := by
  rw [pending, clusters_flush, group_flush, List.append_nil, List.flatMap_append, pending]
  exact c.completed_hits_perm.append_left _

theorem pending_insert_perm (hit : Hit) : (c.insert hit).pending.Perm (c.pending ++ [hit]) := by
  obtain ⟨group, clusters⟩ := c.insert_eq hit
  rw [pending, group, clusters, ← List.append_assoc]
  refine List.Perm.append_right [hit] ?_
  split
  · exact pending_flush_perm
  · exact List.Perm.refl _

theorem flush_take_of_idle (group : c.group = []) (clusters : c.clusters = []) :
    c.flush.take.2 = c ∧ c.flush.clusters = [] := by
  obtain ⟨config, ⟨arrivals⟩, ⟨finished⟩, processed, found⟩ := c
  have none : arrivals = [] := List.reverse_eq_nil_iff.mp group
  have none' : finished = [] := List.reverse_eq_nil_iff.mp clusters
  subst none none'
  exact ⟨rfl, rfl⟩

end Clusterer

namespace EventBuilder

/-- The hits of all open time-groups. -/
def openHits (b : EventBuilder) : List Hit := b.clusterers.flatMap (·.2.group)

/-- The clusters that are complete and have not been handed on. -/
def finished (b : EventBuilder) : List Cluster := b.clusterers.flatMap (·.2.clusters)

/-- The clusters that a call hands on to be matched. -/
def handing (b : EventBuilder) : Call → List Cluster
  | .insert _ => []
  | .push hits => (b.insertAll hits).finished
  | .process => b.finished
  | .flush => b.flushClusterers.finished

/-- The events that a call closes. -/
def closing (b : EventBuilder) (call : Call) : List Event :=
  match call.flushing? with
  | none => []
  | some flushing =>
    match (b.handedOn call).matcher.matchQueue flushing with
    | .ok m => m.events
    | .error _ => []

/-- What is seen in the course of a run, call after call. -/
def along {α : Type} (view : EventBuilder → Call → List α) (b : EventBuilder) : List Call → List α
  | [] => []
  | call :: rest =>
    view b call ++
      match b.perform call with
      | .ok (_, b) => b.along view rest
      | .error _ => []

/-- The hits of tracked planes. -/
def accepted (config : FormationConfig) (given : List Hit) : List Hit :=
  given.filter fun hit => config.planes.contains hit.plane

/-- The books of a builder that was given these hits, has handed on these clusters and closed these events. -/
structure Balanced (config : FormationConfig) (given : List Hit) (handed : List Cluster) (closed : List Event)
    (b : EventBuilder) : Prop where
  given_count : b.statistics.hits + b.statistics.rejectedHits = given.length
  accepted_count : b.statistics.hits = (accepted config given).length
  /-- Every accepted hit is in one place. -/
  held : (accepted config given).Perm (b.openHits ++ b.finished.flatMap Cluster.hits ++
    (b.matcher.unmatched.flatMap Cluster.hits ++ closed.flatMap Event.hits))
  handed_count : b.statistics.clusters = handed.length
  /-- What was handed on is still queued or has become part of an event, whole and once. -/
  gathered : Gathered handed (b.matcher.unmatched ++ closed.flatMap Event.drain)
  rejected : b.matcher.rejected = 0
  closed_count : b.matcher.eventCount = closed.length
  reduced_count : b.statistics.events = closed.length
  judged : b.statistics.goodEvents + b.statistics.badEvents = b.statistics.events

variable {config : FormationConfig} {given : List Hit} {handed : List Cluster} {closed events : List Event}
  {b q : EventBuilder} {m : Matcher} {call : Call} {calls : List Call} {reduced returned : List ReducedEvent}

theorem pending_perm (b : EventBuilder) :
    (b.clusterers.flatMap (·.2.pending)).Perm (b.openHits ++ b.finished.flatMap Cluster.hits) := by
  rw [finished, List.flatMap_assoc]
  exact (List.flatMap_append_perm ..).symm.trans List.perm_append_comm

theorem pending_insertInto {hit : Hit} {clusterers : List (UInt8 × Clusterer)}
    (tracked : clusterers.any (·.1 == hit.plane) = true) :
    ((insertInto hit clusterers).flatMap (·.2.pending)).Perm (clusterers.flatMap (·.2.pending) ++ [hit]) := by
  induction clusterers with
  | nil => cases tracked
  | cons entry rest ih =>
    unfold insertInto
    split
    · rw [List.flatMap_cons, List.flatMap_cons, List.append_assoc]
      refine ((Clusterer.pending_insert_perm hit).append_right _).trans ?_
      rw [List.append_assoc]
      exact List.perm_append_comm.append_left _
    · rename_i other
      have behind : rest.any (·.1 == hit.plane) = true := by simpa [other] using tracked
      rw [List.flatMap_cons, List.flatMap_cons, List.append_assoc]
      exact (ih behind).append_left _

theorem tracks_eq (follows : Follows config given b) (plane : UInt8) :
    b.tracks plane = config.planes.contains plane := by
  rw [← follows.planes, tracks, List.contains_eq_any_beq, List.any_map]
  congr 1
  funext entry
  exact BEq.comm

/-- What the clusterers get is added to what is held. -/
theorem held_more {hits more rest : List Hit}
    (held : hits.Perm (b.openHits ++ b.finished.flatMap Cluster.hits ++ rest))
    (pending : (q.clusterers.flatMap (·.2.pending)).Perm (b.clusterers.flatMap (·.2.pending) ++ more)) :
    (hits ++ more).Perm (q.openHits ++ q.finished.flatMap Cluster.hits ++ rest) := by
  have all := (q.pending_perm.symm.trans pending).trans (b.pending_perm.append_right more)
  refine (held.append_right more).trans (List.Perm.trans ?_ (all.symm.append_right rest))
  simp only [List.append_assoc]
  exact (List.perm_append_comm.append_left _).append_left _

theorem Balanced.insert (follows : Follows config given b) (balanced : Balanced config given handed closed b)
    (hit : Hit) : Balanced config (given ++ [hit]) handed closed (b.insert hit) := by
  have count := balanced.given_count
  have all := balanced.accepted_count
  have tracks := tracks_eq follows hit.plane
  have more : accepted config (given ++ [hit]) = accepted config given ++ accepted config [hit] := List.filter_append ..
  rw [EventBuilder.insert]
  split
  · rename_i tracked
    have own : accepted config [hit] = [hit] := List.filter_cons_of_pos (tracks ▸ tracked)
    rw [own] at more
    refine ⟨?_, ?_, ?_, balanced.handed_count, balanced.gathered, balanced.rejected, balanced.closed_count,
      balanced.reduced_count, balanced.judged⟩
    · rw [List.length_append, List.length_singleton, ← count]
      exact Nat.add_right_comm ..
    · rw [more, List.length_append, List.length_singleton, ← all]
    · rw [more]
      exact held_more balanced.held (pending_insertInto tracked)
  · rename_i strange
    have none : accepted config [hit] = [] := List.filter_cons_of_neg (tracks ▸ strange)
    rw [none, List.append_nil] at more
    refine ⟨?_, ?_, ?_, balanced.handed_count, balanced.gathered, balanced.rejected, balanced.closed_count,
      balanced.reduced_count, balanced.judged⟩
    · rw [List.length_append, List.length_singleton, ← count]
      rfl
    · rw [more]
      exact all
    · rw [more]
      exact balanced.held

theorem Balanced.insertAll (follows : Follows config given b) (balanced : Balanced config given handed closed b)
    (hits : List Hit) : Balanced config (given ++ hits) handed closed (b.insertAll hits) := by
  induction hits generalizing given b with
  | nil => rwa [List.append_nil]
  | cons hit rest ih =>
    rw [List.append_cons]
    exact ih (follows.insert hit) (balanced.insert follows hit)

theorem Balanced.flushClusterers (balanced : Balanced config given handed closed b) :
    Balanced config given handed closed b.flushClusterers := by
  refine ⟨balanced.given_count, balanced.accepted_count, ?_, balanced.handed_count, balanced.gathered,
    balanced.rejected, balanced.closed_count, balanced.reduced_count, balanced.judged⟩
  rw [← List.append_nil (accepted config given)]
  refine held_more balanced.held ?_
  rw [List.append_nil, EventBuilder.flushClusterers, List.flatMap_map]
  exact List.Perm.flatMap_left _ fun entry _ => Clusterer.pending_flush_perm

/-- Completed clusters leave the clusterers for the queue, and none is rejected. -/
theorem Balanced.moveClusters (follows : Follows config given b) (balanced : Balanced config given handed closed b) :
    Balanced config given (handed ++ b.finished) closed b.moveClusters := by
  have delivered := Matcher.insertAll_delivered follows.proper
  rw [← matcher_moveClusters] at delivered
  have unmatched : b.moveClusters.matcher.unmatched = b.matcher.unmatched ++ b.finished := by
    rw [delivered.unmatched, deliveries, List.flatMap_map, finished]
  have openHits : b.moveClusters.openHits = b.openHits := List.flatMap_map ..
  have finished : b.moveClusters.finished = [] := by
    rw [EventBuilder.finished, EventBuilder.moveClusters, List.flatMap_map, List.flatMap_eq_nil_iff]
    exact fun _ _ => rfl
  refine ⟨balanced.given_count, balanced.accepted_count, ?_, ?_, ?_, delivered.rejected.trans balanced.rejected,
    delivered.counted.trans balanced.closed_count, balanced.reduced_count, balanced.judged⟩
  · rw [openHits, finished, unmatched, List.flatMap_nil, List.append_nil, List.flatMap_append]
    refine balanced.held.trans ?_
    simp only [List.append_assoc]
    refine List.Perm.append_left _ ?_
    rw [← List.append_assoc, ← List.append_assoc]
    exact List.perm_append_comm.append_right _
  · rw [List.length_append, ← balanced.handed_count]
    rfl
  · rw [unmatched, List.append_assoc]
    refine (balanced.gathered.append (Gathered.refl b.finished)).perm_right ?_
    rw [List.append_assoc]
    exact List.perm_append_comm.append_left _

/-- Events leave the queue as they are closed, and each of them is reduced and counted. -/
theorem Balanced.settle (balanced : Balanced config given handed closed b) (settled : b.matcher.Settled m events)
    (all : events.mapM config.reduction.reduce = .ok reduced) :
    Balanced config given handed (closed ++ events)
      { b with matcher := m.take.2, statistics := b.statistics.count reduced } := by
  have length := length_mapM all
  have good : reduced.countP (·.good) ≤ reduced.length := List.countP_le_length
  refine ⟨balanced.given_count, balanced.accepted_count, ?_, balanced.handed_count, ?_,
    settled.rejected.trans balanced.rejected, ?_, ?_, ?_⟩
  · have moved := settled.gathered.hits_perm
    have drained : (events.flatMap Event.drain).flatMap Cluster.hits = events.flatMap Event.hits := by
      rw [List.flatMap_assoc]
      exact List.flatMap_congr fun e _ => e.hits_eq_drain.symm
    rw [List.flatMap_append, drained] at moved
    refine balanced.held.trans (List.Perm.append_left _ ((moved.append_right _).trans ?_))
    rw [List.append_assoc, List.flatMap_append]
    exact List.perm_append_comm.append_left _
  · rw [List.flatMap_append]
    refine (balanced.gathered.trans ((settled.gathered.append (Gathered.refl _)))).perm_right ?_
    rw [List.append_assoc]
    exact List.perm_append_comm.append_left _
  · rw [List.length_append, ← balanced.closed_count]
    exact settled.counted
  · rw [List.length_append, ← balanced.reduced_count, ← length]
    rfl
  · have judged := balanced.judged
    simp only [FormationStatistics.count]
    omega

theorem Balanced.start (new : ofConfig config = .ok b) : Balanced config [] [] [] b := by
  obtain ⟨_, rfl⟩ := ofConfig_eq_ok new
  refine ⟨rfl, rfl, ?_, rfl, Gathered.refl [], rfl, rfl, rfl, rfl⟩
  rw [openHits, finished, List.flatMap_map, List.flatMap_map]
  simp [accepted, Clusterer.group, Clusterer.clusters]

theorem Balanced.handedOn (running : Running config given b) (balanced : Balanced config given handed closed b)
    (call : Call) : Balanced config (given ++ call.hits) (handed ++ b.handing call) closed (b.handedOn call) := by
  cases call with
  | insert hit =>
    rw [handing, List.append_nil]
    exact balanced.insert running.follows hit
  | push hits => exact (balanced.insertAll running.follows hits).moveClusters (running.follows.insertAll hits)
  | process =>
    rw [Call.hits, List.append_nil]
    exact balanced.moveClusters running.follows
  | flush =>
    rw [Call.hits, List.append_nil]
    exact balanced.flushClusterers.moveClusters running.follows.flushClusterers

theorem Balanced.perform (running : Running config given b) (balanced : Balanced config given handed closed b)
    (run : b.perform call = .ok (reduced, q)) :
    Balanced config (given ++ call.hits) (handed ++ b.handing call) (closed ++ b.closing call) q ∧
      (b.closing call).mapM config.reduction.reduce = .ok reduced := by
  have moved := balanced.handedOn running call
  rcases running.perform_cases run with
    ⟨idle, rfl, rfl⟩ | ⟨flushing, m, events, matching, matched, settled, rfl, all, rfl⟩
  · have none : b.closing call = [] := by rw [closing, idle]
    rw [none, List.append_nil]
    exact ⟨moved, rfl⟩
  · have closes : b.closing call = m.events := by rw [closing, matching]; simp only [matched]
    rw [closes]
    exact ⟨moved.settle settled all, all⟩

theorem along_cons {α : Type} {view : EventBuilder → Call → List α} (run : b.perform call = .ok (reduced, q)) :
    b.along view (call :: calls) = view b call ++ q.along view calls := by
  rw [along, run]

theorem Balanced.performAll (running : Running config given b) (balanced : Balanced config given handed closed b)
    (run : b.performAll calls = .ok (returned, q)) :
    Balanced config (given ++ calls.flatMap Call.hits) (handed ++ b.along handing calls)
        (closed ++ b.along closing calls) q ∧
      (b.along closing calls).mapM config.reduction.reduce = .ok returned := by
  induction calls generalizing given handed closed b returned with
  | nil =>
    cases run
    simp only [along, List.flatMap_nil, List.append_nil]
    exact ⟨balanced, rfl⟩
  | cons call rest ih =>
    obtain ⟨first, middle, others, atFirst, atOthers, rfl⟩ := performAll_cons_eq_ok run
    obtain ⟨after, all⟩ := balanced.perform running atFirst
    obtain ⟨last, all'⟩ := ih (running.perform atFirst) after atOthers
    simp only [along_cons atFirst, List.flatMap_cons, ← List.append_assoc]
    refine ⟨last, ?_⟩
    rw [List.mapM_append, all, all']
    rfl

/-- Nothing is held by the clusterers or the matcher. -/
structure Idle (b : EventBuilder) : Prop where
  openHits : b.openHits = []
  finished : b.finished = []
  unmatched : b.matcher.unmatched = []
  taken : b.matcher.events = []

theorem Idle.handedOn (idle : b.Idle) : b.handedOn .flush = b := by
  have each : ∀ entry ∈ b.clusterers, entry.2.flush.take.2 = entry.2 ∧ entry.2.flush.clusters = [] :=
    fun entry member => Clusterer.flush_take_of_idle (List.flatMap_eq_nil_iff.mp idle.openHits entry member)
      (List.flatMap_eq_nil_iff.mp idle.finished entry member)
  have clusterers : (b.handedOn .flush).clusterers = b.clusterers := by
    show (b.clusterers.map _).map _ = _
    rw [List.map_map]
    refine (List.map_congr_left fun entry member => ?_).trans (List.map_id _)
    exact Prod.ext rfl (each entry member).1
  have matcher : (b.handedOn .flush).matcher = b.matcher := by
    show (b.clusterers.map _).foldl _ b.matcher = _
    rw [List.foldl_map]
    refine List.foldlRecOn (motive := fun m => m = b.matcher) b.clusterers _ rfl fun m same entry member => ?_
    rw [same]
    show b.matcher.insert entry.1 entry.2.flush.clusters = _
    rw [(each entry member).2, Matcher.insert_nil]
  have finished : b.flushClusterers.finished = [] := by
    show (b.clusterers.map _).flatMap _ = _
    rw [List.flatMap_map, List.flatMap_eq_nil_iff]
    exact fun entry member => (each entry member).2
  have statistics : (b.handedOn .flush).statistics = b.statistics := by
    show { b.statistics with clusters := b.statistics.clusters + b.flushClusterers.finished.length } = _
    rw [finished]
    rfl
  show EventBuilder.mk _ _ _ _ = EventBuilder.mk _ _ _ _
  rw [mk.injEq]
  exact ⟨clusterers, matcher, rfl, statistics⟩

/-- If nothing is held, a flush returns nothing and changes nothing. -/
theorem Idle.flush (idle : b.Idle) : b.flush = .ok ([], b) := by
  have matched : (b.handedOn .flush).matcher.matchQueue true = .ok b.matcher := by
    rw [idle.handedOn, Matcher.matchQueue, idle.unmatched]
    rfl
  have taken : b.matcher.take.2 = b.matcher := by
    show { b.matcher with events := [] } = _
    rw [← idle.taken]
  show b.perform .flush = _
  rw [perform_of_match rfl matched, idle.handedOn, reduceEvents_eq]
  show Except.map _ (b.matcher.events.mapM _) = Except.ok ([], { b with matcher := b.matcher })
  rw [idle.taken, taken]
  rfl

theorem Running.idle_of_flush (running : Running config given b) (run : b.flush = .ok (returned, q)) : q.Idle := by
  have run : b.perform .flush = .ok (returned, q) := run
  rcases running.perform_cases run with
    ⟨matching, _, _⟩ | ⟨flushing, m, events, matching, matched, settled, rfl, all, rfl⟩
  · cases matching
  · cases matching
    have ended {α : Type} (view : Clusterer → List α) (none : ∀ c : Clusterer, view c.flush.take.2 = []) :
        (b.handedOn .flush).clusterers.flatMap (view ·.2) = [] := by
      show ((b.clusterers.map _).map _).flatMap _ = _
      rw [List.map_map, List.flatMap_map, List.flatMap_eq_nil_iff]
      exact fun entry _ => none entry.2
    have matched := ((running.handedOn .flush).follows.matchQueue matched).1
    exact ⟨ended Clusterer.group fun _ => rfl, ended Clusterer.clusters fun _ => rfl, matched.unmatched_eq_nil, rfl⟩

theorem Running.idle_of_flushed (running : Running config given b)
    (run : b.performAll (calls ++ [.flush]) = .ok (returned, q)) : q.Idle := by
  induction calls generalizing given b returned with
  | nil =>
    obtain ⟨_, _, _, flush, rest, _⟩ := performAll_cons_eq_ok run
    cases rest
    exact running.idle_of_flush flush
  | cons call rest ih =>
    obtain ⟨_, _, _, atFirst, atOthers, _⟩ := performAll_cons_eq_ok run
    exact ih (running.perform atFirst) atOthers

/-- Every hit that a builder is given is either rejected, or it is in exactly one place from then on: an open
time-group, a completed cluster, the queue of the matcher or an event that was returned. After a flush only the
events are left. -/
theorem accounts_balanced (valid : config.check = .ok ()) (limited : ClockLimited (calls.flatMap Call.hits)) :
    ∃ start, ofConfig config = .ok start ∧
      (checkCapacity config.reduction.maxTimebins 8 = .ok () →
        ∃ returned q, start.performAll calls = .ok (returned, q)) ∧
      ∀ returned q, start.performAll calls = .ok (returned, q) →
        Balanced config (calls.flatMap Call.hits) (start.along handing calls) (start.along closing calls) q ∧
        (start.along closing calls).mapM config.reduction.reduce = .ok returned ∧
        q.statistics.events = returned.length ∧
        ∀ earlier, calls = earlier ++ [.flush] → q.Idle ∧ q.flush = .ok ([], q) := by
  obtain ⟨start, new⟩ := ofConfig_total valid
  have running := Running.start new
  refine ⟨start, new, running.performAll_total limited, fun returned q run => ?_⟩
  obtain ⟨balanced, all⟩ := (Balanced.start new).performAll running run
  refine ⟨balanced, all, ?_, ?_⟩
  · rw [balanced.reduced_count, List.nil_append, length_mapM all]
  · rintro earlier rfl
    rw [performAll_append] at run
    obtain ⟨⟨first, middle⟩, before, run⟩ := bind_eq_ok_iff.mp run
    obtain ⟨⟨others, last⟩, flush, run⟩ := bind_eq_ok_iff.mp run
    cases run
    obtain ⟨_, _, _, flush, rest, _⟩ := performAll_cons_eq_ok flush
    cases rest
    have idle := (running.performAll before).idle_of_flush flush
    exact ⟨idle, idle.flush⟩

/-- Two tracks and a hit that is on no tracked plane: all books are in balance when the tracks have been flushed. -/
theorem accounts_balanced_tracks :
    let tracks : List Hit := [⟨1, 0, 4, 1⟩, ⟨2, 1, 4, 1⟩, ⟨1000, 0, 4, 1⟩, ⟨1000, 1, 4, 1⟩]
    let calls : List Call := [.push tracks, .insert ⟨1001, 7, 4, 1⟩, .process, .flush]
    ∃ start returned q, ofConfig {} = .ok start ∧ start.performAll calls = .ok (returned, q) ∧
      returned.length = 2 ∧ q.statistics.rejectedHits = 1 ∧
      Balanced {} (tracks ++ [⟨1001, 7, 4, 1⟩]) (start.along handing calls) (start.along closing calls) q ∧
      q.flush = .ok ([], q) := by
  intro tracks calls
  obtain ⟨start, new, _, books⟩ := @accounts_balanced {} calls rfl (by decide +kernel)
  have counts : ((ofConfig {}).toOption.bind fun b => (b.performAll calls).toOption.map fun run =>
      (run.1.length, run.2.statistics.rejectedHits)) = some (2, 1) := by decide +kernel
  rw [new] at counts
  obtain ⟨⟨returned, q⟩, run, counts⟩ := Option.map_eq_some_iff.mp counts
  obtain ⟨events, rejected⟩ := Prod.ext_iff.mp counts
  have run := eq_ok_of_toOption run
  obtain ⟨balanced, _, _, idle⟩ := books returned q run
  exact ⟨start, returned, q, new, run, events, rejected, balanced, (idle [_, _, _] rfl).2⟩

end EventBuilder

end EventFormation
