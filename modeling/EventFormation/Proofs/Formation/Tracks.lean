import EventFormation.Proofs.Event.Tracks
import EventFormation.Proofs.Formation.Batches
import EventFormation.Proofs.Formation.Bursts
import Mathlib.Data.Multiset.Bind

namespace EventFormation

namespace GeneratorConfig

/-- The clusters of the tracks of one event. -/
def eventClusters (g : GeneratorConfig) (tracks : Nat → UInt8 → Track g.length) (planes : List UInt8) (i : Nat) :
    List Cluster :=
  planes.map fun plane => (tracks i plane).cluster (i * g.spacing.toNat) plane

variable {g : GeneratorConfig} {tracks : Nat → UInt8 → Track g.length} {planes : List UInt8} {maxDelta i : Nat}

theorem Separate.timeEnd_eventClusters (separate : g.Separate) (inside : i < g.events) :
    ∀ c ∈ g.eventClusters tracks planes i, c.timeEnd.toNat = i * g.spacing.toNat + (g.length - 1) := by
  intro c member
  obtain ⟨plane, _, rfl⟩ := List.mem_map.mp member
  exact (tracks i plane).timeEnd_cluster (separate.track_inTime inside) g.length_pos

theorem hits_eventClusters : (g.eventClusters tracks planes i).flatMap Cluster.hits =
    planes.flatMap fun plane => (tracks i plane).hits (i * g.spacing.toNat) plane := by
  rw [eventClusters, List.flatMap_map]
  exact List.flatMap_congr fun plane _ => Track.hits_cluster _

/-- The clusters of an event end together, and too far from those of other events to follow them. -/
theorem Separate.chains (separate : g.Separate) (spaced : maxDelta < g.spacing.toNat) (filled : planes ≠ []) :
    Chains maxDelta ((List.range g.events).map (g.eventClusters tracks planes)) where
  filled := by
    intro group member
    obtain ⟨i, _, rfl⟩ := List.mem_map.mp member
    simpa [eventClusters] using filled
  linked := by
    intro group member
    obtain ⟨i, inside, rfl⟩ := List.mem_map.mp member
    rw [List.mem_range] at inside
    refine Linked.of_end_le fun c atC d atD => ?_
    rw [separate.timeEnd_eventClusters inside c atC, separate.timeEnd_eventClusters inside d atD]
  apart := by
    refine List.pairwise_map.mpr (List.pairwise_lt_range.imp_of_mem fun {i j} atI atJ later c atC d atD => ?_)
    have next := g.spacing_le_of_lt later
    rw [separate.timeEnd_eventClusters (List.mem_range.mp atI) c atC,
      separate.timeEnd_eventClusters (List.mem_range.mp atJ) d atD]
    omega

theorem Separate.bursts (separate : g.Separate) (spaced : maxDelta < g.spacing.toNat) :
    Bursts maxDelta ((List.range g.events).map (g.eventClusters tracks planes)).flatten := by
  have ends : ∀ c ∈ ((List.range g.events).map (g.eventClusters tracks planes)).flatten,
      ∃ i, c.timeEnd.toNat = i * g.spacing.toNat + (g.length - 1) := by
    intro c member
    obtain ⟨group, atGroup, atC⟩ := List.mem_flatten.mp member
    obtain ⟨i, inside, rfl⟩ := List.mem_map.mp atGroup
    exact ⟨i, separate.timeEnd_eventClusters (List.mem_range.mp inside) c atC⟩
  intro c atC d atD before
  obtain ⟨i, stop⟩ := ends c atC
  obtain ⟨j, stop'⟩ := ends d atD
  rw [stop, stop', Nat.add_lt_add_iff_right] at before
  have next := g.spacing_le_of_lt (Nat.lt_of_mul_lt_mul_right before)
  omega

theorem flatten_eventClusters (g : GeneratorConfig) (tracks : Nat → UInt8 → Track g.length) (planes : List UInt8) :
    ((List.range g.events).map (g.eventClusters tracks planes)).flatten.Perm
      (planes.flatMap fun plane => (List.range g.events).map fun i =>
        (tracks i plane).cluster (i * g.spacing.toNat) plane) := by
  have turned := Multiset.bind_map_comm (List.range g.events : Multiset Nat) (planes : Multiset UInt8)
    (f := fun i plane => (tracks i plane).cluster (i * g.spacing.toNat) plane)
  simp only [Multiset.map_coe, Multiset.coe_bind, Multiset.coe_eq_coe] at turned
  rwa [← List.flatMap_def]

end GeneratorConfig

section Formed

variable {config : FormationConfig} {g : GeneratorConfig} {maxDelta : UInt64} {tracks : Nat → UInt8 → Track g.length}

theorem planeClusters_tracks (resolves : config.clusters.Resolves g) (distinct : g.planes.Nodup) {plane : UInt8}
    (member : plane ∈ g.planes) :
    planeClusters config (Hit.sortByTime (g.laidOut tracks 0 g.events)) plane =
      (List.range g.events).map fun i => (tracks i plane).cluster (i * g.spacing.toNat) plane := by
  rw [planeClusters, resolves.separate.sortByTime_filter distinct tracks member, resolves.clustersOf_column]

/-- The events of a generator, or none if there is no room for the times of a window. -/
structure GeneratorConfig.FormedBack (g : GeneratorConfig) (config : FormationConfig)
    (outcome : Except Fault (List ReducedEvent)) : Prop where
  all : g.events = 0 ∨ checkCapacity config.reduction.maxTimebins 8 = .ok () →
    ∃ formed, outcome = .ok formed ∧ List.Forall₂ (fun i r => ReducedEvent.OfTracks (i * g.spacing.toNat)
      config.planes.length g.length (config.reduction.windowLength g.length) r) (List.range g.events) formed
  fault : ¬ (g.events = 0 ∨ checkCapacity config.reduction.maxTimebins 8 = .ok ()) →
    outcome = .error .capacityOverflow

/-- Events that are made of the chains of the tracks are those of the generator. -/
theorem Outcome.formedBack {clusters : List Cluster} {events : List Event} {groups : List (List Cluster)}
    (outcome : Outcome maxDelta.toNat config.planes clusters events groups)
    (count : checkCapacity config.reduction.maxTimebins 8 = .ok () → events.length = groups.length)
    (valid : config.check = .ok ()) (separate : g.Separate) (spaced : maxDelta.toNat < g.spacing.toNat)
    (parts : clusters.Perm ((List.range g.events).map (g.eventClusters tracks config.planes)).flatten) :
    g.FormedBack config (events.mapM config.reduction.reduce) := by
  obtain ⟨_, matching, reduction⟩ := bind_eq_ok_iff.mp valid
  have planes : MatchConfig.PlanesChecked config.planes := MatchConfig.planesChecked_of_check matching
  -- The same clusters divide into chains in one way only, so the groups are the rows of tracks.
  have same := outcome.chains.unique (separate.chains spaced planes.some) (outcome.parts.trans parts)
  have number : groups.length = g.events := by simpa using same.length_eq
  constructor
  · intro possible
    by_cases none : g.events = 0
    · have idle := outcome.idle (List.eq_nil_of_length_eq_zero (number.trans none))
      rw [idle, none]
      exact ⟨[], rfl, .nil⟩
    have enough := possible.resolve_left none
    rw [List.forall₂_map_right_iff] at same
    obtain ⟨length, made⟩ := List.forall₂_iff_get.mp (outcome.made (count enough))
    obtain ⟨length', same⟩ := List.forall₂_iff_get.mp same
    have bins := ReductionConfig.maxTimebins_pos reduction
    refine mapM_total_of (List.forall₂_iff_get.mpr ⟨length.trans length', fun k atEvent atRange => ?_⟩)
    have atGroup : k < groups.length := length ▸ atEvent
    obtain ⟨sound, spanning, _⟩ := outcome.sound _ (List.get_mem events ⟨k, atEvent⟩)
    have hits := (made k atEvent atGroup).trans ((same k atGroup atRange).flatMap_right Cluster.hits)
    rw [GeneratorConfig.hits_eventClusters, ← spanning] at hits
    rw [← spanning]
    refine ReductionConfig.reduce_tracks enough sound ?_ g.length_pos bins (spanning ▸ planes.some)
      (spanning ▸ planes.few) hits
    exact separate.track_inTime (by simpa using atRange)
  · intro impossible
    rw [not_or] at impossible
    have full : checkCapacity config.reduction.maxTimebins 8 = .error .capacityOverflow :=
      if_neg fun room => impossible.2 (if_pos room)
    rw [outlines_fault outcome full, if_neg fun none => impossible.1 (by rw [← number, none]; rfl)]

theorem GeneratorConfig.Separate.clockLimited (separate : g.Separate) :
    ClockLimited (Hit.sortByTime (g.laidOut tracks 0 g.events)) := by
  have early : ∀ hit ∈ Hit.sortByTime (g.laidOut tracks 0 g.events), hit.time.toNat < lastTick := by
    intro hit member
    obtain ⟨i, inside, atEvent⟩ := List.mem_flatMap.mp ((Hit.sortByTime_perm _).subset member)
    obtain ⟨plane, _, atTrack⟩ := List.mem_flatMap.mp atEvent
    rw [List.mem_range] at inside
    have inTime := separate.inTime
    have apart := separate.apart
    have some := g.length_pos
    have next := g.spacing_le_of_lt inside
    rw [Nat.zero_add] at atTrack
    obtain ⟨step, within, atTime, _⟩ := Track.mem_hits (separate.track_inTime inside) atTrack
    rw [wordCount] at inTime
    rw [atTime, lastTick]
    omega
  intro first _ last atLast
  rw [ticksSince]
  exact (Nat.sub_le _ _).trans_lt (early last atLast)

/-- Generated hits are formed back into their events, at once and in whatever batches they are pushed. -/
theorem generated_formedBack (valid : config.check = .ok ()) (policy : config.matching.policy = .endProximity maxDelta)
    (planes : g.planes.Perm config.planes) (inTime : g.events * g.spacing.toNat + g.length < wordCount)
    (inRange : g.events * g.planes.length * g.length * 16 ≤ maxBlockBytes)
    (apart : config.clusters.maxTimeGap.toNat + g.length - 1 < g.spacing.toNat)
    (spaced : maxDelta.toNat < g.spacing.toNat)
    (close : 1 < g.length → 1 ≤ config.clusters.maxTimeGap.toNat ∧ 1 ≤ config.clusters.maxCoordGap.toNat) :
    ∃ hits batch start, g.hits = .ok hits ∧ formEvents config hits = .ok batch ∧
      EventBuilder.ofConfig config = .ok start ∧ g.FormedBack config batch ∧
      ∀ batches : List (List Hit), batches.flatten = hits →
        g.FormedBack config ((start.performAll (batches.map .push ++ [.flush])).map (·.1)) := by
  obtain ⟨_, matching, _⟩ := bind_eq_ok_iff.mp valid
  have distinct : g.planes.Nodup := planes.nodup_iff.mpr (MatchConfig.planesChecked_of_check matching).distinct
  have some := g.length_pos
  have resolves : config.clusters.Resolves g := ⟨inTime, by omega, close⟩
  have separate := resolves.separate
  obtain ⟨tracks, made⟩ := GeneratorConfig.hits_eq distinct inTime inRange
  have limited : ClockLimited (Hit.sortByTime (g.laidOut tracks 0 g.events)) := separate.clockLimited
  have clusters : config.planes.flatMap (planeClusters config (Hit.sortByTime (g.laidOut tracks 0 g.events))) =
      config.planes.flatMap fun plane => (List.range g.events).map fun i =>
        (tracks i plane).cluster (i * g.spacing.toNat) plane :=
    List.flatMap_congr fun plane member => planeClusters_tracks resolves distinct (planes.mem_iff.mpr member)
  have parts := (g.flatten_eventClusters tracks config.planes).symm
  obtain ⟨start, new⟩ := EventBuilder.ofConfig_total valid
  obtain ⟨events, groups, formed, outcome, count⟩ := formEvents_outcome valid policy limited
  rw [clusters] at outcome
  refine ⟨_, _, start, made, formed, new, outcome.formedBack (fun _ => count) valid separate spaced parts, ?_⟩
  intro batches whole
  have given : (batches.map EventBuilder.Call.push).flatMap EventBuilder.Call.hits =
      Hit.sortByTime (g.laidOut tracks 0 g.events) := by
    rw [← whole, List.flatMap_map]
    exact List.flatMap_id
  have going : EventBuilder.Call.flush ∉ batches.map EventBuilder.Call.push := by simp
  have ordered : ∀ plane ∈ config.planes, ((batches.map EventBuilder.Call.push).flatMap EventBuilder.Call.hits).filter
      (·.plane == plane) |>.Pairwise fun a b => a.time ≤ b.time := by
    intro plane _
    rw [given]
    exact (Hit.sortByTime_pairwise _).filter _
  obtain ⟨⟨events, groups, outcome, run, count⟩, handed⟩ :=
    EventBuilder.foreseen_start new policy going ordered (given ▸ limited)
  rw [given, clusters] at handed
  rw [given, handed] at outcome
  rw [run]
  refine outcome.formedBack (fun enough => (count enough).mpr ?_) valid separate spaced parts
  refine (EventBuilder.Running.start new).keepsTogether policy going ?_
  rw [given, handed]
  exact (separate.bursts spaced).subset parts.subset

/-- Two events that follow each other as closely as the gap allows. Their hits are pushed in two parts, the first
of which ends within the first event. -/
theorem generated_formedBack_pair :
    let g : GeneratorConfig := { planes := [1, 0], events := 2, spacing := 204 }
    let outlines : List Outline := [0, 204].map fun time => ⟨time, [some ⟨1, 1, 3⟩, some ⟨1, 1, 3⟩, none]⟩
    ∃ hits batch start, g.hits = .ok hits ∧ formEvents {} hits = .ok batch ∧ EventBuilder.ofConfig {} = .ok start ∧
      g.FormedBack {} batch ∧ batch.map (List.map ReducedEvent.outline) = .ok outlines ∧
      let streamed := (start.performAll [.push (hits.take 7), .push (hits.drop 7), .flush]).map (·.1)
      g.FormedBack {} streamed ∧ streamed.map (List.map ReducedEvent.outline) = .ok outlines := by
  intro g outlines
  obtain ⟨hits, batch, start, made, formed, new, whole, parts⟩ := @generated_formedBack {} g 200 rfl rfl (by decide)
    (by decide) (by decide) (by decide) (by decide) (by decide)
  have once : (g.hits.toOption.bind fun hits => (formEvents {} hits).toOption.bind fun batch =>
      (batch.map (List.map ReducedEvent.outline)).toOption) = some outlines := by decide +kernel
  have twice : (g.hits.toOption.bind fun hits => (EventBuilder.ofConfig {}).toOption.bind fun start =>
      (((start.performAll [.push (hits.take 7), .push (hits.drop 7), .flush]).map (·.1)).map
        (List.map ReducedEvent.outline)).toOption) = some outlines := by decide +kernel
  rw [made, Except.toOption, Option.bind_some] at once twice
  have formed' : formEvents {} hits = .ok batch := formed
  have new' : EventBuilder.ofConfig {} = .ok start := new
  rw [formed', Except.toOption, Option.bind_some] at once
  rw [new', Except.toOption, Option.bind_some] at twice
  exact ⟨hits, batch, start, made, formed, new, whole, eq_ok_of_toOption once,
    parts [hits.take 7, hits.drop 7] (by simp), eq_ok_of_toOption twice⟩

/-- A window of more times than there is room for passes the check, yet the event of the generator is not formed. -/
theorem generated_not_formedBack_window :
    let config : FormationConfig := { reduction := { maxTimebins := 1152921504606846976 } }
    let g : GeneratorConfig := { events := 1, trackLength := 1 }
    let hits : List Hit := [⟨0, 0, 154, 192⟩, ⟨0, 1, 145, 880⟩]
    config.check = .ok () ∧ g.planes = config.planes ∧ g.hits = .ok hits ∧
      formEvents config hits = .ok (.error .capacityOverflow) := by
  intro config g hits
  have made : g.hits.toOption = some hits := by decide +kernel
  have window : (formEvents config hits).toOption.map (·.map (List.map ReducedEvent.outline)) =
      some (.error .capacityOverflow) := by decide +kernel
  obtain ⟨batch, formed, window⟩ := Option.map_eq_some_iff.mp window
  have formed := eq_ok_of_toOption formed
  cases batch with
  | ok events => cases window
  | error fault =>
    cases window
    exact ⟨rfl, rfl, eq_ok_of_toOption made, formed⟩

end Formed

end EventFormation
