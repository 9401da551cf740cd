import EventFormation.Formation.Builder
import EventFormation.Proofs.Fault
import EventFormation.Proofs.Matching.Delivery

namespace EventFormation.EventBuilder

/-- What can be asked of a builder. -/
inductive Call
  | insert (hit : Hit)
  | push (hits : List Hit)
  | process
  | flush

def Call.hits : Call → List Hit
  | insert hit => [hit]
  | push hits => hits
  | process | flush => []

def perform (b : EventBuilder) : Call → Except Fault (List ReducedEvent × EventBuilder)
  | .insert hit => .ok ([], b.insert hit)
  | .push hits => b.push hits
  | .process => b.process
  | .flush => b.flush

/-- All events that a run returns, and the builder after it. -/
def performAll (b : EventBuilder) : List Call → Except Fault (List ReducedEvent × EventBuilder)
  | [] => .ok ([], b)
  | call :: rest => do
    let (first, b) ← b.perform call
    let (others, b) ← b.performAll rest
    return (first ++ others, b)

theorem performAll_cons_eq_ok {b q : EventBuilder} {call : Call} {rest : List Call}
    {reduced : List ReducedEvent} (run : b.performAll (call :: rest) = .ok (reduced, q)) :
    ∃ first middle others, b.perform call = .ok (first, middle) ∧
      middle.performAll rest = .ok (others, q) ∧ reduced = first ++ others := by
  obtain ⟨⟨first, middle⟩, atFirst, run⟩ := bind_eq_ok_iff.mp run
  obtain ⟨⟨others, last⟩, atOthers, run⟩ := bind_eq_ok_iff.mp run
  cases run
  exact ⟨first, middle, others, atFirst, atOthers, rfl⟩

theorem performAll_append (b : EventBuilder) (earlier later : List Call) :
    b.performAll (earlier ++ later) = (do
      let (first, b) ← b.performAll earlier
      let (others, b) ← b.performAll later
      return (first ++ others, b)) := by
  induction earlier generalizing b with
  | nil => exact (bind_pure _).symm
  | cons call rest ih => simp only [List.cons_append, performAll, ih, bind_assoc, pure_bind, List.append_assoc]

theorem ofConfig_total {config : FormationConfig} (valid : config.check = .ok ()) : ∃ b, ofConfig config = .ok b := by
  obtain ⟨_, matching, _⟩ := bind_eq_ok_iff.mp valid
  unfold ofConfig Matcher.ofConfig Matcher.ofRule
  rw [valid, matching]
  exact ⟨_, rfl⟩

theorem ofConfig_eq_ok {config : FormationConfig} {b : EventBuilder} (new : ofConfig config = .ok b) :
    config.check = .ok () ∧ b = {
      clusterers := config.planes.map fun plane => (plane, { config := config.clusters })
      matcher := { rule := config.matching.policy.rule, latency := config.matching.latency,
                   minimumQueued := config.matching.minimumQueued, progress := config.planes.map (·, 0) }
      reduction := config.reduction } := by
  obtain ⟨_, valid, new⟩ := bind_eq_ok_iff.mp new
  obtain ⟨m, set, new⟩ := bind_eq_ok_iff.mp new
  obtain ⟨_, _, made⟩ := bind_eq_ok_iff.mp set
  cases new
  cases made
  exact ⟨valid, rfl⟩

theorem reduceEvents_eq_ok {b q : EventBuilder} {reduced : List ReducedEvent}
    (run : b.reduceEvents = .ok (reduced, q)) :
    b.matcher.events.mapM b.reduction.reduce = .ok reduced ∧
      q = { b with matcher := b.matcher.take.2, statistics := b.statistics.count reduced } := by
  obtain ⟨results, all, run⟩ := bind_eq_ok_iff.mp run
  cases run
  exact ⟨all, rfl⟩

theorem pollMatcher_eq_ok {b q : EventBuilder} (run : b.pollMatcher = .ok q) :
    ∃ m, b.moveClusters.matcher.poll = .ok m ∧ q = { b.moveClusters with matcher := m } := by
  obtain ⟨m, poll, run⟩ := bind_eq_ok_iff.mp run
  cases run
  exact ⟨m, poll, rfl⟩

theorem flushMatcher_eq_ok {b q : EventBuilder} (run : b.flushMatcher = .ok q) :
    ∃ m, b.flushClusterers.moveClusters.matcher.flush = .ok m ∧
      q = { b.flushClusterers.moveClusters with matcher := m } := by
  obtain ⟨m, flush, run⟩ := bind_eq_ok_iff.mp run
  cases run
  exact ⟨m, flush, rfl⟩

theorem process_eq_ok {b q : EventBuilder} {reduced : List ReducedEvent}
    (run : b.process = .ok (reduced, q)) :
    ∃ polled, b.pollMatcher = .ok polled ∧ polled.reduceEvents = .ok (reduced, q) := bind_eq_ok_iff.mp run

theorem flush_eq_ok {b q : EventBuilder} {reduced : List ReducedEvent}
    (run : b.flush = .ok (reduced, q)) :
    ∃ flushed, b.flushMatcher = .ok flushed ∧ flushed.reduceEvents = .ok (reduced, q) := bind_eq_ok_iff.mp run

variable {b : EventBuilder}

theorem insertInto_eq_map {hit : Hit} {clusterers : List (UInt8 × Clusterer)}
    (distinct : (clusterers.map (·.1)).Nodup) :
    insertInto hit clusterers =
      clusterers.map fun entry => (entry.1, if entry.1 == hit.plane then entry.2.insert hit else entry.2) := by
  induction clusterers with
  | nil => rfl
  | cons entry rest ih =>
    rw [List.map_cons, List.nodup_cons] at distinct
    unfold insertInto
    split
    · rename_i own
      have others : ∀ other ∈ rest,
          (other.1, if other.1 == hit.plane then other.2.insert hit else other.2) = other := by
        intro other member
        have apart : ¬ (other.1 == hit.plane) = true := by
          intro same
          have planes : other.1 = entry.1 := (eq_of_beq same).trans (eq_of_beq own).symm
          exact distinct.1 (planes ▸ List.mem_map_of_mem member)
        rw [if_neg apart]
      rw [List.map_cons, List.map_congr_left others, List.map_id', if_pos own]
    · rename_i other
      rw [List.map_cons, if_neg other, ih distinct.2]

/-- A hit changes the clusterer of its plane, if there is one. -/
theorem clusterers_insert (distinct : (b.clusterers.map (·.1)).Nodup) (hit : Hit) :
    (b.insert hit).clusterers = b.clusterers.map fun entry =>
      (entry.1, if entry.1 == hit.plane then entry.2.insert hit else entry.2) := by
  unfold EventBuilder.insert
  split
  · exact insertInto_eq_map distinct
  · rename_i strange
    have same : ∀ entry ∈ b.clusterers,
        (entry.1, if entry.1 == hit.plane then entry.2.insert hit else entry.2) = entry := by
      intro entry member
      have apart : ¬ (entry.1 == hit.plane) = true :=
        fun own => strange (List.any_eq_true.mpr ⟨entry, member, own⟩)
      rw [if_neg apart]
    rw [List.map_congr_left same, List.map_id']

@[simp] theorem matcher_insert (hit : Hit) : (b.insert hit).matcher = b.matcher := by
  unfold EventBuilder.insert
  split <;> rfl

@[simp] theorem reduction_insert (hit : Hit) : (b.insert hit).reduction = b.reduction := by
  unfold EventBuilder.insert
  split <;> rfl

/-- What the clusterers hand on, plane after plane. -/
def deliveries (b : EventBuilder) : List (UInt8 × List Cluster) :=
  b.clusterers.map fun entry => (entry.1, entry.2.clusters)

theorem matcher_moveClusters : b.moveClusters.matcher = b.matcher.insertAll b.deliveries := by
  rw [Matcher.insertAll, deliveries, List.foldl_map]
  rfl

end EventFormation.EventBuilder
