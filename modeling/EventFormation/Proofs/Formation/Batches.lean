import EventFormation.Proofs.Formation.Streams
import EventFormation.Proofs.Matching.Simulation

namespace EventFormation

theorem Hit.sortByTime_of_ordered {hits : List Hit} (ordered : hits.Pairwise fun a b => a.time ≤ b.time) :
    sortByTime hits = hits := by
  rw [sortByTime, stableSort_eq]
  exact List.mergeSort_of_pairwise (ordered.imp fun before => decide_eq_true before)

variable {config : FormationConfig} {maxDelta : UInt64} {hits : List Hit}

theorem planeClusters_proper (plane : UInt8) (c : Cluster) (member : c ∈ planeClusters config hits plane) :
    c.Faithful ∧ c.plane = some plane ∧ c.hits ⊆ hits := by
  rcases Clusterer.coming_faithful c member with old | ⟨faithful, filled, inside⟩
  · cases old
  · have within : ∀ hit ∈ c.hits, hit ∈ hits.filter (·.plane == plane) :=
      fun hit atHit => (Hit.sortByTime_perm _).subset (inside atHit)
    refine ⟨faithful, (faithful.plane plane).mpr ⟨filled, fun hit atHit => ?_⟩, fun hit atHit => ?_⟩
    · simpa using (List.mem_filter.mp (within hit atHit)).2
    · exact (List.mem_filter.mp (within hit atHit)).1

theorem planeClusters_tracked {plane : UInt8} (tracked : plane ∈ config.planes) (c : Cluster)
    (member : c ∈ planeClusters config hits plane) : c.Tracked config.planes := by
  obtain ⟨faithful, on, _⟩ := planeClusters_proper plane c member
  exact ⟨faithful, plane, tracked, on⟩

def idleMatcher (config : FormationConfig) : Matcher where
  rule := config.matching.policy.rule
  latency := config.matching.latency
  minimumQueued := config.matching.minimumQueued
  progress := config.planes.map (·, 0)

/-- A matcher that was handed the clusters of the whole collection, plane after plane. -/
def batchMatcher (config : FormationConfig) (hits : List Hit) : Matcher :=
  (idleMatcher config).insertAll (config.planes.map fun plane => (plane, planeClusters config hits plane))

theorem formEvents_eq (valid : config.check = .ok ()) :
    formEvents config hits =
      .ok ((batchMatcher config hits).flush >>= fun m => m.events.mapM config.reduction.reduce) := by
  obtain ⟨_, matching, _⟩ := bind_eq_ok_iff.mp valid
  unfold formEvents Matcher.ofConfig Matcher.ofRule batchMatcher Matcher.insertAll
  rw [valid, matching, List.foldl_map]
  rfl

theorem batchMatcher_delivered (config : FormationConfig) (hits : List Hit) :
    (batchMatcher config hits).planes = config.planes ∧
      (batchMatcher config hits).unmatched = config.planes.flatMap (planeClusters config hits) ∧
      (batchMatcher config hits).events = [] ∧
      (batchMatcher config hits).rule = config.matching.policy.rule := by
  have planes : (idleMatcher config).planes = config.planes := by
    simp [idleMatcher, Matcher.planes, Function.comp_def]
  let parts := config.planes.map fun plane => (plane, planeClusters config hits plane)
  have proper : ∀ part ∈ parts, Matcher.Proper (idleMatcher config).planes part := by
    intro part given
    obtain ⟨plane, tracked, rfl⟩ := List.mem_map.mp given
    refine ⟨planes.symm ▸ tracked, fun c member => ?_⟩
    obtain ⟨faithful, on, _⟩ := planeClusters_proper plane c member
    exact ⟨faithful, on⟩
  have delivered := Matcher.insertAll_delivered proper
  refine ⟨delivered.planes.trans planes, ?_, delivered.events, delivered.rule⟩
  rw [batchMatcher, delivered.unmatched, List.flatMap_map]
  rfl

theorem batchMatcher_tracked (config : FormationConfig) (hits : List Hit) :
    ∀ c ∈ (batchMatcher config hits).unmatched, c.Tracked config.planes ∧ c.hits ⊆ hits := by
  obtain ⟨_, unmatched, _, _⟩ := batchMatcher_delivered config hits
  intro c member
  rw [unmatched] at member
  obtain ⟨plane, inside, atPlane⟩ := List.mem_flatMap.mp member
  obtain ⟨faithful, on, within⟩ := planeClusters_proper plane c atPlane
  exact ⟨⟨faithful, plane, inside, on⟩, within⟩

theorem batchMatcher_flush (valid : config.check = .ok ()) (limited : ClockLimited hits) :
    ∃ m, (batchMatcher config hits).flush = .ok m ∧ (batchMatcher config hits).Matched true m := by
  obtain ⟨_, matching, _⟩ := bind_eq_ok_iff.mp valid
  obtain ⟨spanning, _, _, rule⟩ := batchMatcher_delivered config hits
  have clusters := batchMatcher_tracked config hits
  rw [← spanning] at clusters
  have distinct : (batchMatcher config hits).planes.Nodup :=
    spanning.symm ▸ (MatchConfig.planesChecked_of_check matching).distinct
  have within : (batchMatcher config hits).unmatched.flatMap Cluster.hits ⊆ hits := by
    intro hit member
    obtain ⟨c, queued, atHit⟩ := List.mem_flatMap.mp member
    exact (clusters c queued).2 atHit
  have tracked := fun c member => (clusters c member).1
  have answers : (batchMatcher config hits).rule.Answers hits := by
    rw [rule]
    exact MatchPolicy.answers _ limited
  obtain ⟨m, run⟩ := Matcher.matchQueue_total true answers limited distinct tracked within
  exact ⟨m, run, Matcher.matchQueue_matched distinct tracked run⟩

section Simulation

variable {others : List Hit} {clusters : Cluster → Cluster → Prop} {events : Event → Event → Prop}

theorem batchMatcher_related
    (made : ∀ plane ∈ config.planes,
      List.Forall₂ clusters (planeClusters config hits plane) (planeClusters config others plane)) :
    List.Forall₂ clusters (batchMatcher config hits).unmatched (batchMatcher config others).unmatched := by
  obtain ⟨_, unmatched, _⟩ := batchMatcher_delivered config hits
  obtain ⟨_, unmatched', _⟩ := batchMatcher_delivered config others
  have planes : List.Forall₂ (fun p q => p = q ∧ p ∈ config.planes) config.planes config.planes :=
    List.forall₂_same.mpr fun plane tracked => ⟨rfl, tracked⟩
  rw [unmatched, unmatched']
  refine List.rel_flatMap planes ?_
  rintro plane _ ⟨rfl, tracked⟩
  exact made plane tracked

/-- Batch formation makes events that correspond of clusters that do. -/
theorem formEvents_related (valid : config.check = .ok ()) (limited : ClockLimited hits)
    (relates : config.matching.policy.rule.Correspondence config.planes clusters events)
    (made : ∀ plane ∈ config.planes,
      List.Forall₂ clusters (planeClusters config hits plane) (planeClusters config others plane)) :
    ∃ formed formed', formEvents config hits = .ok (formed.mapM config.reduction.reduce) ∧
      formEvents config others = .ok (formed'.mapM config.reduction.reduce) ∧
      List.Forall₂ events formed formed' ∧ ∀ e ∈ formed, e.hits ≠ [] := by
  obtain ⟨m, run, matched⟩ := batchMatcher_flush valid limited
  obtain ⟨spanning, _, none, rule⟩ := batchMatcher_delivered config hits
  obtain ⟨spanning', _, none', rule'⟩ := batchMatcher_delivered config others
  have tracked : ∀ c ∈ (batchMatcher config hits).unmatched, c.Tracked (batchMatcher config hits).planes :=
    fun c member => spanning.symm ▸ (batchMatcher_tracked config hits c member).1
  obtain ⟨closed, settled⟩ := matched.settled tracked
  rw [← rule, ← spanning] at relates
  obtain ⟨m', formed, formed', run', closing, closing', pairs⟩ := Matcher.flush_related relates (rule'.trans rule.symm)
    (spanning'.trans spanning.symm) (batchMatcher_related made) run
  rw [none, List.nil_append] at closing
  rw [none', List.nil_append] at closing'
  have all : formed = closed := by rw [← closing, settled.events, none, List.nil_append]
  refine ⟨formed, formed', ?_, ?_, pairs, fun e member => (settled.sound e (all ▸ member)).2.2⟩
  · rw [formEvents_eq valid, run, ← closing]
    rfl
  · rw [formEvents_eq valid, run', ← closing']
    rfl

end Simulation

/-- Batch formation makes an event of each chain of the clusters. -/
theorem formEvents_outcome (valid : config.check = .ok ()) (policy : config.matching.policy = .endProximity maxDelta)
    (limited : ClockLimited hits) :
    ∃ events groups, formEvents config hits = .ok (events.mapM config.reduction.reduce) ∧
      Outcome maxDelta.toNat config.planes (config.planes.flatMap (planeClusters config hits)) events groups ∧
      events.length = groups.length := by
  obtain ⟨_, matching, _⟩ := bind_eq_ok_iff.mp valid
  obtain ⟨spanning, unmatched, events, rule⟩ := batchMatcher_delivered config hits
  rw [policy] at rule
  have distinct : (batchMatcher config hits).planes.Nodup :=
    spanning.symm ▸ (MatchConfig.planesChecked_of_check matching).distinct
  have tracked : ∀ c ∈ (batchMatcher config hits).unmatched, c.Tracked (batchMatcher config hits).planes :=
    fun c member => spanning.symm ▸ (batchMatcher_tracked config hits c member).1
  obtain ⟨m, run, matched⟩ := batchMatcher_flush valid limited
  obtain ⟨groups, outcome, count⟩ := matched.flush_outcome rule distinct tracked events
  rw [unmatched, spanning] at outcome
  refine ⟨m.events, groups, ?_, outcome, count⟩
  rw [formEvents_eq valid, run]
  rfl

theorem outlines_eq {planes : List UInt8} {events events' : List Event} {groups groups' : List (List Cluster)}
    (made : List.Forall₂ Event.Made events groups) (made' : List.Forall₂ Event.Made events' groups')
    (same : List.Forall₂ List.Perm groups groups')
    (sound : ∀ e ∈ events, e.Sound ∧ e.planes = planes ∧ e.hits ≠ [])
    (sound' : ∀ e ∈ events', e.Sound ∧ e.planes = planes ∧ e.hits ≠ []) :
    List.Forall₂ (fun e e' => (config.reduction.reduce e).map ReducedEvent.outline =
      (config.reduction.reduce e').map ReducedEvent.outline) events events' := by
  induction same generalizing events events' with
  | nil =>
    rw [List.forall₂_nil_right_iff.mp made, List.forall₂_nil_right_iff.mp made']
    exact .nil
  | cons first _ ih =>
    obtain ⟨e, rest, atFirst, others, rfl⟩ := List.forall₂_cons_right_iff.mp made
    obtain ⟨e', rest', atFirst', others', rfl⟩ := List.forall₂_cons_right_iff.mp made'
    obtain ⟨good, planes, _⟩ := sound e List.mem_cons_self
    obtain ⟨good', planes', _⟩ := sound' e' List.mem_cons_self
    have hits := (atFirst.trans (first.flatMap_right Cluster.hits)).trans atFirst'.symm
    refine .cons (ReductionConfig.reduce_outline_perm good good' (planes.trans planes'.symm) hits) ?_
    exact ih others others' (fun other member => sound other (List.mem_cons_of_mem e member))
      fun other member => sound' other (List.mem_cons_of_mem e' member)

/-- Both ways to form events fault in the same way where nothing can be reduced. -/
theorem outlines_fault {planes : List UInt8} {clusters : List Cluster} {events : List Event}
    {groups : List (List Cluster)} {fault : Fault} (outcome : Outcome maxDelta.toNat planes clusters events groups)
    (full : checkCapacity config.reduction.maxTimebins 8 = .error fault) :
    events.mapM config.reduction.reduce = if groups = [] then .ok [] else .error fault := by
  split
  · rename_i none
    rw [outcome.idle none]
    rfl
  · rename_i some
    have count := outcome.atLeast
    have filled : events ≠ [] := by
      rintro rfl
      exact some (List.eq_nil_of_length_eq_zero (Nat.le_zero.mp count))
    have all : ∀ e ∈ events, config.reduction.reduce e = .error fault := fun e member =>
      ReductionConfig.reduce_fault full (outcome.sound e member).1 (outcome.sound e member).2.2
    obtain ⟨e, member⟩ := List.exists_mem_of_ne_nil events filled
    exact mapM_fault (fun other inside => Or.inl (all other inside)) ⟨e, member, all e member⟩

/-- Two ways to form the same chains return the same outlines, exactly if the first has no event too many. Where no
window can be kept, nothing is reduced in either way. -/
theorem Outcome.outlines_eq_iff {planes : List UInt8} {clusters : List Cluster} {events events' : List Event}
    {groups groups' : List (List Cluster)} (outcome : Outcome maxDelta.toNat planes clusters events groups)
    (outcome' : Outcome maxDelta.toNat planes clusters events' groups') (count' : events'.length = groups'.length) :
    (events.mapM config.reduction.reduce).map (List.map ReducedEvent.outline) =
        (events'.mapM config.reduction.reduce).map (List.map ReducedEvent.outline) ↔
      (checkCapacity config.reduction.maxTimebins 8 = .ok () → events.length = groups.length) := by
  have same := outcome.chains.unique outcome'.chains (outcome.parts.trans outcome'.parts.symm)
  cases full : checkCapacity config.reduction.maxTimebins 8 with
  | error fault =>
    have none : groups = [] ↔ groups' = [] := by
      rw [← List.length_eq_zero_iff, ← List.length_eq_zero_iff, same.length_eq]
    simp only [outlines_fault outcome full, outlines_fault outcome' full, none, reduceCtorEq, false_implies]
  | ok enough =>
    constructor
    · intro equal _
      obtain ⟨returned, total⟩ := mapM_total fun e (_ : e ∈ events) => ReductionConfig.reduce_total full e
      obtain ⟨returned', total'⟩ := mapM_total fun e (_ : e ∈ events') => ReductionConfig.reduce_total full e
      rw [total, total'] at equal
      have lengths := congrArg List.length (Except.ok.inj equal)
      rw [List.length_map, List.length_map, length_mapM total, length_mapM total'] at lengths
      rw [lengths, count', same.length_eq]
    · intro count
      rw [map_mapM, map_mapM]
      have made := outcome.made (count rfl)
      exact mapM_forall₂ (outlines_eq made (outcome'.made count') same outcome.sound outcome'.sound)

namespace EventBuilder

/-- All that a new builder will have handed on are the clusters of the whole collection. -/
theorem outstanding_start {start : EventBuilder} (new : ofConfig config = .ok start)
    (ordered : ∀ plane ∈ config.planes, (hits.filter (·.plane == plane)).Pairwise fun a b => a.time ≤ b.time) :
    start.outstanding hits = config.planes.flatMap (planeClusters config hits) := by
  obtain ⟨_, rfl⟩ := ofConfig_eq_ok new
  rw [outstanding, List.flatMap_map]
  refine List.flatMap_congr fun plane tracked => ?_
  rw [planeClusters, Hit.sortByTime_of_ordered (ordered plane tracked)]
  rfl

variable {calls : List Call}

/-- What a new builder returns for calls is foreseen from the clusters of the whole collection. -/
theorem foreseen_start {start : EventBuilder} (new : ofConfig config = .ok start)
    (policy : config.matching.policy = .endProximity maxDelta) (going : Call.flush ∉ calls)
    (ordered : ∀ plane ∈ config.planes, ((calls.flatMap Call.hits).filter (·.plane == plane)).Pairwise
      fun a b => a.time ≤ b.time)
    (limited : ClockLimited (calls.flatMap Call.hits)) :
    Foreseen config maxDelta start calls ∧ start.matcher.unmatched ++ start.outstanding (calls.flatMap Call.hits) =
      config.planes.flatMap (planeClusters config (calls.flatMap Call.hits)) := by
  refine ⟨(Running.start new).foreseen policy calls limited ordered going, ?_⟩
  rw [outstanding_start new ordered]
  obtain ⟨_, rfl⟩ := ofConfig_eq_ok new
  rfl

/-- Events that are formed as the hits come are those of the whole collection, exactly if no poll takes the
event in progress apart. Where no window can be kept, nothing is reduced in either way. -/
theorem stream_eq_batch_iff (valid : config.check = .ok ())
    (policy : config.matching.policy = .endProximity maxDelta) (going : Call.flush ∉ calls)
    (ordered : ∀ plane ∈ config.planes, ((calls.flatMap Call.hits).filter (·.plane == plane)).Pairwise
      fun a b => a.time ≤ b.time)
    (limited : ClockLimited (calls.flatMap Call.hits)) :
    ∃ start batch, ofConfig config = .ok start ∧ formEvents config (calls.flatMap Call.hits) = .ok batch ∧
      (checkCapacity config.reduction.maxTimebins 8 = .ok () →
        (∃ returned last, start.performAll (calls ++ [.flush]) = .ok (returned, last)) ∧
          ∃ formed, batch = .ok formed) ∧
      (((start.performAll (calls ++ [.flush])).map fun run => run.1.map ReducedEvent.outline) =
          batch.map (List.map ReducedEvent.outline) ↔
        (checkCapacity config.reduction.maxTimebins 8 = .ok () →
          ∀ m ∈ start.polls calls, m.KeepsTogether maxDelta.toNat)) := by
  obtain ⟨start, new⟩ := ofConfig_total valid
  obtain ⟨⟨events, groups, outcome, run, count⟩, clusters⟩ := foreseen_start new policy going ordered limited
  obtain ⟨events', groups', formed, outcome', count'⟩ := formEvents_outcome valid policy limited
  rw [clusters] at outcome
  refine ⟨start, _, new, formed, fun enough => ?_, ?_⟩
  · obtain ⟨returned, total⟩ := mapM_total fun e (_ : e ∈ events) => ReductionConfig.reduce_total enough e
    rw [total] at run
    refine ⟨?_, mapM_total fun e _ => ReductionConfig.reduce_total enough e⟩
    cases done : start.performAll (calls ++ [.flush]) with
    | error fault =>
      rw [done] at run
      cases run
    | ok result => exact ⟨result.1, result.2, rfl⟩
  · have left : ((start.performAll (calls ++ [.flush])).map fun run => run.1.map ReducedEvent.outline) =
        (events.mapM config.reduction.reduce).map (List.map ReducedEvent.outline) := by
      rw [← run]
      cases start.performAll (calls ++ [.flush]) <;> rfl
    rw [left, outcome.outlines_eq_iff outcome' count']
    exact forall_congr' count

/-- Three tracks that come in two parts, with a poll in between: the polls keep the last track together. -/
theorem stream_eq_batch_tracks :
    let early : List Hit := [⟨1, 0, 4, 1⟩, ⟨1, 1, 4, 1⟩, ⟨1000, 0, 4, 1⟩, ⟨1000, 1, 4, 1⟩]
    let late : List Hit := [⟨2000, 0, 4, 1⟩, ⟨2000, 1, 4, 1⟩, ⟨3000, 0, 4, 1⟩, ⟨3000, 1, 4, 1⟩]
    let calls : List Call := [.push early, .process, .push late]
    let outlines : List Outline := [1, 1000, 2000, 3000].map fun time =>
      ⟨time, [some ⟨1, 1, 1⟩, some ⟨1, 1, 1⟩, none]⟩
    ∃ start batch, ofConfig {} = .ok start ∧ formEvents {} (early ++ late) = .ok batch ∧
      batch.map (List.map ReducedEvent.outline) = .ok outlines ∧ ∀ m ∈ start.polls calls, m.KeepsTogether 200 := by
  intro early late calls outlines
  obtain ⟨start, batch, new, formed, _, same⟩ := @stream_eq_batch_iff {} 200 calls rfl rfl (by simp [calls])
    (by decide +kernel) (by decide +kernel)
  have streamed : ((ofConfig {}).toOption.bind fun b => ((b.performAll (calls ++ [.flush])).map fun run =>
      run.1.map ReducedEvent.outline).toOption) = some outlines := by decide +kernel
  have whole : ((formEvents {} (early ++ late)).toOption.bind fun batch =>
      (batch.map (List.map ReducedEvent.outline)).toOption) = some outlines := by decide +kernel
  rw [new] at streamed
  have formed' : formEvents {} (early ++ late) = .ok batch := formed
  rw [formed'] at whole
  have streamed := eq_ok_of_toOption streamed
  have whole := eq_ok_of_toOption whole
  exact ⟨start, batch, new, formed, whole, same.mp (streamed.trans whole.symm) rfl⟩

/-- Hits of one plane go on after those of the other. As the event is put back plane by plane, its parts
end too far apart to be joined again. -/
theorem stream_ne_batch_parted :
    let config : FormationConfig :=
      { clusters := { maxTimeGap := 0, maxCoordGap := 0 }
        matching := { policy := .endProximity 5, minimumQueued := 3 } }
    let hits : List Hit := [⟨0, 0, 1, 1⟩, ⟨0, 1, 1, 1⟩, ⟨5, 0, 1, 1⟩, ⟨10, 0, 1, 1⟩, ⟨30, 0, 1, 1⟩, ⟨30, 1, 1, 1⟩,
      ⟨40, 0, 1, 1⟩, ⟨40, 1, 1, 1⟩]
    let later : List Outline := [30, 40].map fun time => ⟨time, [some ⟨1, 1, 1⟩, some ⟨1, 1, 1⟩, none]⟩
    ∃ start returned last formed, ofConfig config = .ok start ∧
      start.performAll [.push hits, .flush] = .ok (returned, last) ∧ formEvents config hits = .ok (.ok formed) ∧
      returned.map ReducedEvent.outline = [⟨0, [some ⟨0, 0, 0⟩, some ⟨1, 1, 1⟩, none]⟩,
        ⟨0, [some ⟨3, 1, 1⟩, some ⟨0, 0, 0⟩, none]⟩] ++ later ∧
      formed.map ReducedEvent.outline = [⟨0, [some ⟨3, 1, 1⟩, some ⟨1, 1, 1⟩, none]⟩] ++ later := by
  intro config hits later
  have streamed : ((ofConfig config).toOption.bind fun start =>
      (start.performAll [.push hits, .flush]).toOption.map (·.1.map ReducedEvent.outline)) =
        some ([⟨0, [some ⟨0, 0, 0⟩, some ⟨1, 1, 1⟩, none]⟩, ⟨0, [some ⟨3, 1, 1⟩, some ⟨0, 0, 0⟩, none]⟩] ++ later) := by
    decide +kernel
  have whole : ((formEvents config hits).toOption.bind fun batch =>
      batch.toOption.map (List.map ReducedEvent.outline)) =
        some ([⟨0, [some ⟨3, 1, 1⟩, some ⟨1, 1, 1⟩, none]⟩] ++ later) := by
    decide +kernel
  obtain ⟨start, new, streamed⟩ := Option.bind_eq_some_iff.mp streamed
  obtain ⟨⟨returned, last⟩, run, outlines⟩ := Option.map_eq_some_iff.mp streamed
  obtain ⟨batch, made, whole⟩ := Option.bind_eq_some_iff.mp whole
  obtain ⟨formed, reduced, outlines'⟩ := Option.map_eq_some_iff.mp whole
  have made := eq_ok_of_toOption made
  rw [eq_ok_of_toOption reduced] at made
  exact ⟨start, returned, last, formed, eq_ok_of_toOption new, eq_ok_of_toOption run, made, outlines, outlines'⟩

end EventBuilder

end EventFormation
