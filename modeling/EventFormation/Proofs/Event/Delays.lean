import EventFormation.Proofs.Cluster.Delays
import EventFormation.Proofs.Event.Outline

namespace EventFormation

/-- An event that a clock would have dated that was set forward by so many ticks. -/
def ReducedEvent.delayed (ticks : Int) (e : ReducedEvent) : ReducedEvent :=
  { e with time := (e.time.toNat + ticks).toNat.toUInt64 }

/-- Two events over these planes. In every slot the second one has the hits of the first one, in their order, but
later. -/
structure Event.Delays (ticks : Int) (planes : List UInt8) (e e' : Event) : Prop where
  left : e.Sound
  right : e'.Sound
  spanning : e.planes = planes
  slots : List.Forall₂ (fun slot slot' => slot.1 = slot'.1 ∧ List.Forall₂ (Hit.Delays ticks) slot.2.hits slot'.2.hits)
    e.slots e'.slots

variable {ticks : Int} {planes : List UInt8} {e e' : Event}

namespace Event.Delays

theorem start (distinct : planes.Nodup) : Delays ticks planes (ofPlanes planes) (ofPlanes planes) where
  left := .ofPlanes distinct
  right := .ofPlanes distinct
  spanning := planes_ofPlanes planes
  slots := by
    rw [ofPlanes, List.forall₂_map_left_iff, List.forall₂_map_right_iff, List.forall₂_same]
    exact fun plane _ => ⟨rfl, .nil⟩

theorem spanning' (later : Delays ticks planes e e') : e'.planes = planes := by
  rw [← later.spanning]
  exact (map_eq_of_forall₂ later.slots fun both => both.1).symm

theorem hits (later : Delays ticks planes e e') : List.Forall₂ (Hit.Delays ticks) e.hits e'.hits := by
  rw [hits_eq, hits_eq]
  exact List.rel_flatMap later.slots fun _ _ both => both.2

theorem isEmpty (later : Delays ticks planes e e') : e.isEmpty = e'.isEmpty := by
  rw [Bool.eq_iff_iff, isEmpty_iff, isEmpty_iff, ← List.length_eq_zero_iff, ← List.length_eq_zero_iff,
    later.hits.length_eq]

theorem stretch (later : Delays ticks planes e e') (filled : e.hits ≠ []) : e.stretch.Delays ticks e'.stretch := by
  have filled' : e'.hits ≠ [] := by
    rw [← List.length_pos_iff, ← later.hits.length_eq, List.length_pos_iff]
    exact filled
  have times : List.Forall₂ (Delay ticks) (e.hits.map (·.time)) (e'.hits.map (·.time)) :=
    List.rel_map (fun _ _ pair => pair.time) later.hits
  obtain ⟨start, stop⟩ := (later.left.times filled).delay (later.right.times filled') times
  exact ⟨start, stop⟩

/-- What the slots of a plane hold. -/
theorem slot (later : Delays ticks planes e e') {plane : UInt8} (tracked : plane ∈ planes) :
    ∃ held held', e.slot? plane = some held ∧ e'.slot? plane = some held' ∧ held.Faithful ∧ held'.Faithful ∧
      List.Forall₂ (Hit.Delays ticks) held.hits held'.hits := by
  obtain ⟨held, slot, faithful, own⟩ := later.left.slot_hits (later.spanning ▸ tracked)
  obtain ⟨held', slot', faithful', own'⟩ := later.right.slot_hits (later.spanning' ▸ tracked)
  refine ⟨held, held', slot, slot', faithful, faithful', ?_⟩
  rw [own, own']
  exact Hit.filter_plane_delays later.hits plane

end Event.Delays

variable {hits others : List Hit}

theorem max?_delay {as bs : List UInt64} (same : List.Forall₂ (Delay ticks) as bs) :
    Option.Rel (Delay ticks) as.max? bs.max? := by
  cases same with
  | nil => exact .none
  | cons first rest => exact .some (List.rel_foldl (fun _ _ low _ _ high => low.max high) first rest)

theorem Selection.of_delays (selection : Selection) (same : List.Forall₂ (Hit.Delays ticks) hits others) :
    List.Forall₂ (Hit.Delays ticks) (selection.of hits) (selection.of others) := by
  cases selection with
  | maxWeight =>
    have weights : hits.map (·.weight) = others.map (·.weight) := map_eq_of_forall₂ same fun pair => pair.weight
    simp only [Selection.of, weights]
    refine List.rel_filter (fun a b pair => ?_) same
    show (some a.weight == _) = true ↔ (some b.weight == _) = true
    rw [pair.weight]
  | latestTime =>
    have latest := max?_delay (List.rel_map (fun _ _ pair => pair.time) same)
    refine List.rel_filter (fun _ _ pair => ?_) same
    generalize (hits.map (·.time)).max? = first at latest ⊢
    generalize (others.map (·.time)).max? = second at latest ⊢
    cases latest with
    | none => simp
    | some greatest => simpa using pair.time.eq_iff greatest
  | all => exact same

theorem coordinateSpan_delays (same : List.Forall₂ (Hit.Delays ticks) hits others) :
    coordinateSpan hits = coordinateSpan others := by
  have coordinates : hits.map (·.coordinate) = others.map (·.coordinate) :=
    map_eq_of_forall₂ same fun pair => pair.coordinate
  rw [coordinateSpan, coordinateSpan, coordinates]

namespace ReductionConfig

variable {config : ReductionConfig}

theorem center_delays (same : List.Forall₂ (Hit.Delays ticks) hits others) :
    config.center hits = config.center others := by
  have weights : hits.map (·.weight.toFloat) = others.map (·.weight.toFloat) :=
    map_eq_of_forall₂ same fun pair => by rw [pair.weight]
  have coordinates : hits.map (·.coordinate.toFloat) = others.map (·.coordinate.toFloat) :=
    map_eq_of_forall₂ same fun pair => by rw [pair.coordinate]
  have masses : hits.map (fun hit => hit.weight.toFloat * hit.coordinate.toFloat) =
      others.map fun hit => hit.weight.toFloat * hit.coordinate.toFloat :=
    map_eq_of_forall₂ same fun pair => by rw [pair.weight, pair.coordinate]
  rw [center, center, weights, coordinates, masses, same.length_eq]

/-- The walk back in time stops in the same place. -/
theorem windowFrom_delays {maxTimebins times : Nat} {earliest earliest' : UInt64} {taken taken' : Series Hit}
    (early : ∀ {a b}, Hit.Delays ticks a b → (a.time < earliest ↔ b.time < earliest'))
    (held : List.Forall₂ (Hit.Delays ticks) taken.newestFirst taken'.newestFirst)
    (ahead : List.Forall₂ (Hit.Delays ticks) hits others) :
    List.Forall₂ (Hit.Delays ticks) (windowFrom maxTimebins earliest taken times hits).newestFirst
      (windowFrom maxTimebins earliest' taken' times others).newestFirst := by
  induction ahead generalizing taken taken' times with
  | nil => exact held
  | @cons a b _ _ pair _ ih =>
    have repeated : taken.last?.any (·.time == a.time) = taken'.last?.any (·.time == b.time) := by
      obtain ⟨newest⟩ := taken
      obtain ⟨newest'⟩ := taken'
      rw [Series.last?, Series.last?]
      cases held with
      | nil => rfl
      | cons last _ =>
        rw [List.head?_cons, List.head?_cons, Option.any_some, Option.any_some, Bool.eq_iff_iff, beq_iff_eq, beq_iff_eq]
        exact last.time.eq_iff pair.time
    have pushed : List.Forall₂ (Hit.Delays ticks) (taken.push a).newestFirst (taken'.push b).newestFirst :=
      .cons pair held
    simp only [windowFrom, early pair, repeated]
    split
    · exact held
    split
    · exact ih pushed
    split
    · exact held
    · exact ih pushed

/-- The window of a cluster opens as much later, though no earlier than the clock starts. -/
theorem window_delays {c d : Cluster} (same : List.Forall₂ (Hit.Delays ticks) c.hits d.hits)
    (stop : Delay ticks c.timeEnd d.timeEnd) :
    List.Forall₂ (Hit.Delays ticks) (config.window c) (config.window d) := by
  have early {time opens : UInt64} : time < (opens.toNat - config.maxTimedif.toNat).toUInt64 ↔
      time.toNat + config.maxTimedif.toNat < opens.toNat := by
    have word : opens.toNat - config.maxTimedif.toNat < 2 ^ 64 := Nat.lt_of_le_of_lt (Nat.sub_le _ _) opens.toNat_lt
    rw [UInt64.lt_iff_toNat_lt, Nat.toUInt64, UInt64.toNat_ofNat_of_lt' word]
    omega
  refine List.rel_reverse (windowFrom_delays (fun {a b} pair => ?_) .nil (List.rel_reverse (Hit.sortByTime_delays same)))
  have time := pair.time
  rw [early, early]
  simp only [Delay] at time stop
  omega

/-- A cluster is reduced to the same dimension however much later its hits come. -/
theorem reduceCluster_delays {c d : Cluster} (first : c.Faithful) (second : d.Faithful)
    (same : List.Forall₂ (Hit.Delays ticks) c.hits d.hits) : config.reduceCluster c = config.reduceCluster d := by
  have length := same.length_eq
  by_cases none : c.hits = []
  · have none' : d.hits = [] := by
      rw [none] at same
      exact List.forall₂_nil_left_iff.mp same
    rw [first.blank none, second.blank none']
  · have some : d.hits ≠ [] := by
      rw [← List.length_pos_iff, ← length, List.length_pos_iff]
      exact none
    obtain ⟨_, _, times⟩ := first.delay second same
    have selected := config.selection.of_delays same
    rw [reduceCluster_filled none, reduceCluster_filled some, center_delays selected, coordinateSpan_delays selected,
      coordinateSpan_delays (window_delays same (times none).last), selected.length_eq]

/-- A reduced event only comes later. -/
theorem reduce_delays (later : Event.Delays ticks planes e e') (filled : e.hits ≠ []) :
    config.reduce e' = (config.reduce e).map (ReducedEvent.delayed ticks) := by
  have dimensions : e.planes.mapM (config.reducePlane e) = e'.planes.mapM (config.reducePlane e') := by
    rw [later.spanning, later.spanning']
    refine mapM_forall₂ (List.forall₂_same.mpr fun plane tracked => ?_)
    obtain ⟨held, held', slot, slot', faithful, faithful', same⟩ := later.slot tracked
    rw [reducePlane_eq slot, reducePlane_eq slot', reduceCluster_delays faithful faithful' same]
  have time : Delay ticks e.timeStart e'.timeStart := (later.stretch filled).first
  rw [reduce, reduce, dimensions, time.eq_toUInt64]
  cases e'.planes.mapM (config.reducePlane e') <;> rfl

/-- The clock has not run over where it dates the event. -/
theorem delay_of_reduce {reduced : ReducedEvent} (later : Event.Delays ticks planes e e') (filled : e.hits ≠ [])
    (run : config.reduce e = .ok reduced) : Delay ticks reduced.time (reduced.delayed ticks).time := by
  obtain ⟨dimensions, _, made⟩ := bind_eq_ok_iff.mp run
  cases made
  have time : Delay ticks e.timeStart e'.timeStart := (later.stretch filled).first
  show Delay ticks e.timeStart (e.timeStart.toNat + ticks).toNat.toUInt64
  rwa [← time.eq_toUInt64]

end ReductionConfig

end EventFormation
