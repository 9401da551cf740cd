import EventFormation.Proofs.Cluster.Bounds
import EventFormation.Proofs.Fault

namespace EventFormation

/-- How a cluster comes about. What a merge leaves of the second cluster is a cluster again. -/
inductive Construction
  | new
  | withCapacity (capacity : Nat)
  | insert (c : Construction) (hit : Hit)
  | merge (into other : Construction)
  | rest (into other : Construction)
  | clear (c : Construction)
  deriving Repr, DecidableEq

namespace Construction

/-- The hits that came in since the cluster was empty for the last time, in their order. -/
def hits : Construction → List Hit
  | new | withCapacity _ | rest _ _ | clear _ => []
  | insert c hit => c.hits ++ [hit]
  | merge into other => into.hits ++ other.hits

/-- Everything that room is asked for on the way. -/
def capacities : Construction → List Nat
  | new => []
  | withCapacity capacity => [capacity]
  | insert c _ | clear c => c.capacities
  | merge into other | rest into other => into.capacities ++ other.capacities

def build : Construction → Except Fault Cluster
  | new => return .empty
  | withCapacity capacity => Cluster.withCapacity capacity
  | insert c hit => return (← c.build).insert hit
  | merge into other => return ((← into.build).merge (← other.build)).1
  | rest into other => return ((← into.build).merge (← other.build)).2
  | clear c => return (← c.build).clear

end Construction

/-- The sum of some terms in their order, which were added up one by one from zero or in groups. -/
inductive Summed : List Float → Float → Prop
  | zero : Summed [] 0
  | term {terms sum} (next : Float) : Summed terms sum → Summed (terms ++ [next]) (sum + next)
  | groups {first second a b} : first ≠ [] → second ≠ [] → Summed first a → Summed second b →
      Summed (first ++ second) (a + b)

namespace Cluster

variable {c d : Cluster} {given : List Hit}

/-- A cluster as it would be without its sums. -/
def unweighed (c : Cluster) : Cluster := { c with weightSum := 0, coordMass := 0, timeMass := 0 }

/-- Each sum of a cluster has one term for each hit. -/
structure Weighed (c : Cluster) : Prop where
  weight : Summed (c.hits.map (·.weight.toFloat)) c.weightSum
  coordinate : Summed (c.hits.map fun hit => hit.weight.toFloat * hit.coordinate.toFloat) c.coordMass
  time : Summed (c.hits.map fun hit => hit.weight.toFloat * hit.time.toFloat) c.timeMass

/-- What a cluster keeps of these hits, which is everything but how its sums were added up. -/
structure Describes (c : Cluster) (given : List Hit) : Prop where
  hits : c.hits = given
  plane : ∀ plane, c.plane = some plane ↔ given ≠ [] ∧ ∀ hit ∈ given, hit.plane = plane
  mixed : c.mixed = true ↔ ∃ a ∈ given, ∃ b ∈ given, a.plane ≠ b.plane
  valid : c.isValid = true ↔ given ≠ [] ∧ ∀ a ∈ given, ∀ b ∈ given, a.plane = b.plane
  coordStart : c.coordStart = (given.map (·.coordinate)).min?.getD 0
  coordEnd : c.coordEnd = (given.map (·.coordinate)).max?.getD 0
  timeStart : c.timeStart = (given.map (·.time)).min?.getD 0
  timeEnd : c.timeEnd = (given.map (·.time)).max?.getD 0
  weighed : c.Weighed
  blank : given = [] → c = Cluster.empty

theorem Weighed.empty : Cluster.empty.Weighed := ⟨.zero, .zero, .zero⟩

theorem Weighed.insert (weighed : c.Weighed) (hit : Hit) : (c.insert hit).Weighed := by
  have sums : (c.insert hit).weightSum = c.weightSum + hit.weight.toFloat ∧
      (c.insert hit).coordMass = c.coordMass + hit.weight.toFloat * hit.coordinate.toFloat ∧
      (c.insert hit).timeMass = c.timeMass + hit.weight.toFloat * hit.time.toFloat := by
    unfold Cluster.insert
    dsimp only
    split <;> exact ⟨rfl, rfl, rfl⟩
  obtain ⟨weight, coordinate, time⟩ := sums
  refine ⟨?_, ?_, ?_⟩ <;> rw [hits_insert, List.map_append]
  · exact weight ▸ weighed.weight.term _
  · exact coordinate ▸ weighed.coordinate.term _
  · exact time ▸ weighed.time.term _

theorem Weighed.merge (left : c.Weighed) (right : d.Weighed) : (c.merge d).1.Weighed := by
  -- Where one side has no hits, the sums of the other are taken over as they are, and nothing is added to them.
  by_cases noneRight : d.isEmpty = true
  · rwa [Cluster.merge, if_pos noneRight]
  by_cases noneLeft : c.isEmpty = true
  · rwa [Cluster.merge, if_neg noneRight, if_pos noneLeft]
  have some {terms : Hit → Float} {c : Cluster} (filled : ¬ c.isEmpty = true) : c.hits.map terms ≠ [] := by
    rwa [ne_eq, List.map_eq_nil_iff, ← isEmpty_iff]
  refine ⟨?_, ?_, ?_⟩ <;> rw [hits_merge_fst, List.map_append] <;>
    simp only [Cluster.merge, noneLeft, noneRight]
  · exact .groups (some noneLeft) (some noneRight) left.weight right.weight
  · exact .groups (some noneLeft) (some noneRight) left.coordinate right.coordinate
  · exact .groups (some noneLeft) (some noneRight) left.time right.time

theorem Built.weighed (built : c.Built) : c.Weighed := by
  induction built with
  | empty => exact .empty
  | insert hit _ ih => exact ih.insert hit
  | merge _ _ ihLeft ihRight => exact ihLeft.merge ihRight

/-- Planes are mixed if two hits are on different ones. -/
theorem Faithful.mixed_iff_ne (faithful : c.Faithful) :
    c.mixed = true ↔ ∃ a ∈ c.hits, ∃ b ∈ c.hits, a.plane ≠ b.plane := by
  rw [faithful.mixed_iff]
  constructor
  · rintro ⟨some, none⟩
    obtain ⟨first, member⟩ := List.exists_mem_of_ne_nil _ some
    by_contra agree
    push Not at agree
    have plane := (faithful.plane first.plane).mpr ⟨some, fun hit inside => agree hit inside first member⟩
    rw [none] at plane
    cases plane
  · rintro ⟨a, atA, b, atB, apart⟩
    refine ⟨List.ne_nil_of_mem atA, Option.eq_none_iff_forall_not_mem.mpr fun plane shared => apart ?_⟩
    obtain ⟨_, all⟩ := (faithful.plane plane).mp shared
    rw [all a atA, all b atB]

theorem Built.describes (built : c.Built) : c.Describes c.hits := by
  have faithful := built.faithful
  have mixed := faithful.mixed_iff_ne
  have valid : c.isValid = true ↔ c.hits ≠ [] ∧ ∀ a ∈ c.hits, ∀ b ∈ c.hits, a.plane = b.plane := by
    rw [isValid, Bool.and_eq_true, Bool.not_eq_true', isEmpty_eq_false_iff, Bool.not_eq_true', ← Bool.not_eq_true, mixed]
    push Not
    rfl
  by_cases none : c.hits = []
  · have blank := faithful.blank none
    refine ⟨rfl, faithful.plane, mixed, valid, ?_, ?_, ?_, ?_, built.weighed, faithful.blank⟩ <;> rw [none, blank] <;> rfl
  · have times := faithful.times none
    have coordinates := faithful.coordinates none
    refine ⟨rfl, faithful.plane, mixed, valid, ?_, ?_, ?_, ?_, built.weighed, faithful.blank⟩
    · rw [coordinates.min?_eq, Option.getD_some]
    · rw [coordinates.max?_eq, Option.getD_some]
    · rw [times.min?_eq, Option.getD_some]
    · rw [times.max?_eq, Option.getD_some]

/-- A merge always leaves a new cluster behind, as a cluster without hits is one. -/
theorem Built.merge_snd (built : d.Built) : (c.merge d).2 = Cluster.empty := by
  unfold Cluster.merge
  split
  · rename_i none
    exact built.faithful.blank (isEmpty_iff.mp none)
  · split <;> rfl

theorem Describes.unique (first : c.Describes given) (second : d.Describes given) : c.unweighed = d.unweighed := by
  have arrivals : c.arrivals = d.arrivals := Series.toList_inj.mp (first.hits.trans second.hits.symm)
  have plane : c.plane = d.plane := Option.ext fun plane => (first.plane plane).trans (second.plane plane).symm
  have mixed : c.mixed = d.mixed := Bool.eq_iff_iff.mpr (first.mixed.trans second.mixed.symm)
  rw [unweighed, unweighed, arrivals, plane, mixed, first.coordStart, first.coordEnd, first.timeStart, first.timeEnd,
    second.coordStart, second.coordEnd, second.timeStart, second.timeEnd]

end Cluster

namespace Construction

variable {c d : Cluster}

/-- Only insertions and merges give a cluster hits. -/
theorem build_built {t : Construction} (run : t.build = .ok c) : c.Built ∧ c.hits = t.hits := by
  induction t generalizing c with
  | new =>
    cases run
    exact ⟨.empty, rfl⟩
  | withCapacity capacity =>
    obtain ⟨_, _, run⟩ := bind_eq_ok_iff.mp run
    cases run
    exact ⟨.empty, rfl⟩
  | insert t hit ih =>
    obtain ⟨part, atPart, run⟩ := bind_eq_ok_iff.mp run
    cases run
    obtain ⟨built, same⟩ := ih atPart
    exact ⟨built.insert hit, by rw [Cluster.hits_insert, same, hits]⟩
  | merge into other ihInto ihOther =>
    obtain ⟨first, atFirst, run⟩ := bind_eq_ok_iff.mp run
    obtain ⟨second, atSecond, run⟩ := bind_eq_ok_iff.mp run
    cases run
    obtain ⟨built, same⟩ := ihInto atFirst
    obtain ⟨built', same'⟩ := ihOther atSecond
    exact ⟨built.merge built', by rw [Cluster.hits_merge_fst, same, same', hits]⟩
  | rest into other _ ihOther =>
    obtain ⟨first, _, run⟩ := bind_eq_ok_iff.mp run
    obtain ⟨second, atSecond, run⟩ := bind_eq_ok_iff.mp run
    cases run
    rw [(ihOther atSecond).1.merge_snd]
    exact ⟨.empty, rfl⟩
  | clear t _ =>
    obtain ⟨_, _, run⟩ := bind_eq_ok_iff.mp run
    cases run
    exact ⟨.empty, rfl⟩

/-- A cluster comes about unless more room is asked for than there can be. -/
theorem exists_build_iff (t : Construction) :
    (∃ c, t.build = .ok c) ↔ ∀ capacity ∈ t.capacities, capacity * 16 ≤ maxBlockBytes := by
  have both {t u : Construction} {g : Cluster → Cluster → Cluster}
      (ihLeft : (∃ c, t.build = .ok c) ↔ ∀ capacity ∈ t.capacities, capacity * 16 ≤ maxBlockBytes)
      (ihRight : (∃ c, u.build = .ok c) ↔ ∀ capacity ∈ u.capacities, capacity * 16 ≤ maxBlockBytes) :
      (∃ c, (t.build >>= fun first => u.build >>= fun second => pure (g first second)) = .ok c) ↔
        ∀ capacity ∈ t.capacities ++ u.capacities, capacity * 16 ≤ maxBlockBytes := by
    rw [List.forall_mem_append, ← ihLeft, ← ihRight]
    cases t.build with
    | error fault => exact iff_of_false (fun ⟨_, failed⟩ => nomatch failed) (fun ⟨⟨_, failed⟩, _⟩ => nomatch failed)
    | ok first => exact exists_bind_pure_eq_ok_iff.trans (and_iff_right ⟨first, rfl⟩).symm
  induction t with
  | new => exact iff_of_true ⟨_, rfl⟩ (by simp [capacities])
  | withCapacity capacity =>
    simp only [build, Cluster.withCapacity, exists_bind_pure_eq_ok_iff, checkCapacity, capacities, List.mem_singleton,
      forall_eq]
    split <;> simp [*]
  | insert t hit ih => exact exists_bind_pure_eq_ok_iff.trans ih
  | merge into other ihInto ihOther => exact both ihInto ihOther
  | rest into other ihInto ihOther => exact both ihInto ihOther
  | clear t ih => exact exists_bind_pure_eq_ok_iff.trans ih

/-- A cluster is told by the hits that were put into it, however it came about: two clusters of the same hits are
the same but for the way in which their sums were added up. So a merge comes to the same as putting in the hits of the
second cluster one by one, and it leaves a new cluster behind. -/
theorem build_describes (t : Construction) :
    ((∃ c, t.build = .ok c) ↔ ∀ capacity ∈ t.capacities, capacity * 16 ≤ maxBlockBytes) ∧
    ∀ c, t.build = .ok c → c.Describes t.hits ∧
      ∀ u d, Construction.build u = .ok d →
        (t.hits = u.hits → c.unweighed = d.unweighed) ∧
        (c.merge d).1.unweighed = (c.insertAll d.hits).unweighed ∧
        (c.merge d).1.Describes (t.hits ++ u.hits) ∧ (c.insertAll d.hits).Describes (t.hits ++ u.hits) ∧
        (c.merge d).2 = .empty := by
  refine ⟨t.exists_build_iff, fun c run => ?_⟩
  obtain ⟨built, same⟩ := build_built run
  have describes := same ▸ built.describes
  refine ⟨describes, fun u d run' => ?_⟩
  obtain ⟨built', same'⟩ := build_built run'
  have describes' := same' ▸ built'.describes
  have merged := (built.merge built').describes
  have inserted := (built.insertAll d.hits).describes
  rw [Cluster.hits_merge_fst, same, same'] at merged
  rw [show (c.insertAll d.hits).hits = t.hits ++ u.hits by rw [Cluster.hits_insertAll, same, same']] at inserted
  refine ⟨fun equal => ?_, merged.unique inserted, merged, inserted, built'.merge_snd⟩
  exact describes.unique (equal ▸ describes')

/-- A mixed cluster, and one that is filled again after it was emptied and after it was left behind. -/
theorem build_describes_mixed :
    let t : Construction := .insert (.insert .new ⟨5, 0, 7, 2⟩) ⟨3, 1, 9, 1⟩
    let u : Construction := .merge (.rest (.withCapacity 8) t) (.insert (.clear t) ⟨8, 1, 2, 3⟩)
    ∃ c d, t.build = .ok c ∧ u.build = .ok d ∧ c.Describes [⟨5, 0, 7, 2⟩, ⟨3, 1, 9, 1⟩] ∧
      (c.merge d).1.unweighed = (c.insertAll [⟨8, 1, 2, 3⟩]).unweighed ∧
      (c.merge d).1.Describes [⟨5, 0, 7, 2⟩, ⟨3, 1, 9, 1⟩, ⟨8, 1, 2, 3⟩] ∧ (c.merge d).2 = .empty := by
  intro t u
  obtain ⟨total, describes⟩ := build_describes t
  obtain ⟨c, run⟩ := total.mpr (by decide)
  obtain ⟨d, run'⟩ := (build_describes u).1.mpr (by decide)
  obtain ⟨first, merged⟩ := describes c run
  obtain ⟨_, oneByOne, whole, _, left⟩ := merged u d run'
  have second := ((build_describes u).2 d run').1
  rw [second.hits] at oneByOne
  exact ⟨c, d, run, run', first, oneByOne, whole, left⟩

end Construction

end EventFormation
