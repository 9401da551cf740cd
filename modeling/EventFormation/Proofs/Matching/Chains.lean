import EventFormation.Cluster.Basic
import Mathlib.Data.List.Perm.Basic
import Mathlib.Data.List.Forall2
import Mathlib.Order.Nat

namespace EventFormation

/-- Clusters that follow each other closely: each but the last to end has another one that ends later,
and not by more than the distance. -/
def Linked (maxDelta : Nat) (group : List Cluster) : Prop :=
  ∀ c ∈ group, ∀ later ∈ group, c.timeEnd.toNat < later.timeEnd.toNat →
    ∃ next ∈ group, c.timeEnd.toNat < next.timeEnd.toNat ∧ next.timeEnd.toNat ≤ c.timeEnd.toNat + maxDelta

instance (maxDelta : Nat) (group : List Cluster) : Decidable (Linked maxDelta group) :=
  inferInstanceAs (Decidable (∀ c ∈ group, ∀ later ∈ group, c.timeEnd.toNat < later.timeEnd.toNat →
    ∃ next ∈ group, c.timeEnd.toNat < next.timeEnd.toNat ∧ next.timeEnd.toNat ≤ c.timeEnd.toNat + maxDelta))

/-- All of the second clusters end later than the first by more than the distance. -/
def Apart (maxDelta : Nat) (earlier later : List Cluster) : Prop :=
  ∀ c ∈ earlier, ∀ d ∈ later, c.timeEnd.toNat + maxDelta < d.timeEnd.toNat

/-- The last of the clusters ends at this time. -/
def EndsAt (group : List Cluster) (time : Nat) : Prop :=
  (∃ c ∈ group, c.timeEnd.toNat = time) ∧ ∀ c ∈ group, c.timeEnd.toNat ≤ time

/-- Clusters divided where their ends are too far apart, and only there. -/
structure Chains (maxDelta : Nat) (groups : List (List Cluster)) : Prop where
  filled : ∀ group ∈ groups, group ≠ []
  linked : ∀ group ∈ groups, Linked maxDelta group
  apart : groups.Pairwise (Apart maxDelta)

variable {maxDelta time : Nat} {group other : List Cluster} {groups others : List (List Cluster)}

theorem Linked.perm (linked : Linked maxDelta group) (same : group.Perm other) : Linked maxDelta other := by
  intro c member later atLater after
  obtain ⟨next, atNext, close⟩ := linked c (same.mem_iff.mpr member) later (same.mem_iff.mpr atLater) after
  exact ⟨next, same.mem_iff.mp atNext, close⟩

theorem exists_endsAt (some : group ≠ []) : ∃ time, EndsAt group time := by
  obtain ⟨time, atMost⟩ := Option.isSome_iff_exists.mp
    (List.isSome_max?_of_ne_nil (l := group.map (·.timeEnd.toNat)) (by simpa using some))
  obtain ⟨member, bound⟩ := List.max?_eq_some_iff.mp atMost
  obtain ⟨c, inside, atEnd⟩ := List.mem_map.mp member
  exact ⟨time, ⟨c, inside, atEnd⟩, fun d atGroup => bound _ (List.mem_map_of_mem atGroup)⟩

theorem Linked.single (c : Cluster) : Linked maxDelta [c] := by
  intro first atFirst later atLater after
  rw [List.mem_singleton.mp atFirst, List.mem_singleton.mp atLater] at after
  exact absurd after (Nat.lt_irrefl _)

/-- A cluster that ends soon after the last one can be added. -/
theorem Linked.concat (linked : Linked maxDelta group) (last : EndsAt group time) {c : Cluster}
    (after : time ≤ c.timeEnd.toNat) (close : c.timeEnd.toNat ≤ time + maxDelta) :
    Linked maxDelta (group ++ [c]) := by
  obtain ⟨⟨final, atFinal, value⟩, bound⟩ := last
  intro first member later atLater increase
  have added : c ∈ group ++ [c] := List.mem_append_right _ (List.mem_singleton_self c)
  have newest : later.timeEnd.toNat ≤ c.timeEnd.toNat := by
    rcases List.mem_append.mp atLater with old | new
    · exact (bound later old).trans after
    · rw [List.mem_singleton.mp new]
  rcases List.mem_append.mp member with old | new
  · by_cases before : first.timeEnd.toNat < final.timeEnd.toNat
    · obtain ⟨next, atNext, steps⟩ := linked first old final atFinal before
      exact ⟨next, List.mem_append_left _ atNext, steps⟩
    · have low := bound first old
      exact ⟨c, added, by omega, by omega⟩
  · rw [List.mem_singleton.mp new] at increase
    omega

/-- Without its last clusters a group is still linked. -/
theorem Linked.until (linked : Linked maxDelta group) (time : Nat) :
    Linked maxDelta (group.filter fun c => c.timeEnd.toNat ≤ time) := by
  intro c member later atLater after
  simp only [List.mem_filter, decide_eq_true_eq] at member atLater
  obtain ⟨next, atNext, steps⟩ := linked c member.1 later atLater.1 after
  by_cases within : next.timeEnd.toNat ≤ time
  · exact ⟨next, by simpa [within] using atNext, steps⟩
  · exact ⟨later, by simpa [atLater.2] using atLater.1, after, by omega⟩

/-- What follows the last cluster of one group can follow a group that ends at the same time. -/
theorem Linked.replace (linked : Linked maxDelta group) (last : EndsAt group time)
    (continued : Linked maxDelta other) (through : ∃ c ∈ other, c.timeEnd.toNat = time) :
    Linked maxDelta (group ++ other.filter fun c => time < c.timeEnd.toNat) := by
  obtain ⟨⟨final, atFinal, value⟩, bound⟩ := last
  obtain ⟨same, atSame, value'⟩ := through
  have follows {c later : Cluster} (member : c ∈ other) (since : time ≤ c.timeEnd.toNat) (atLater : later ∈ other)
      (after : c.timeEnd.toNat < later.timeEnd.toNat) :
      ∃ next ∈ group ++ other.filter fun c => time < c.timeEnd.toNat,
        c.timeEnd.toNat < next.timeEnd.toNat ∧ next.timeEnd.toNat ≤ c.timeEnd.toNat + maxDelta := by
    obtain ⟨next, atNext, steps⟩ := continued c member later atLater after
    refine ⟨next, List.mem_append_right _ (List.mem_filter.mpr ⟨atNext, ?_⟩), steps⟩
    exact decide_eq_true (by omega)
  intro c member later atLater after
  simp only [List.mem_append, List.mem_filter, decide_eq_true_eq] at member atLater
  rcases member with old | ⟨new, beyond⟩
  · by_cases before : c.timeEnd.toNat < final.timeEnd.toNat
    · obtain ⟨next, atNext, steps⟩ := linked c old final atFinal before
      exact ⟨next, List.mem_append_left _ atNext, steps⟩
    · have low := bound c old
      rcases atLater with again | ⟨further, beyond⟩
      · have low' := bound later again
        omega
      · obtain ⟨next, atNext, steps⟩ := follows atSame value'.ge further (by omega)
        exact ⟨next, atNext, by omega, by omega⟩
  · rcases atLater with again | ⟨further, _⟩
    · have low := bound later again
      omega
    · exact follows new beyond.le further after

theorem Apart.mono {later : List Cluster} (apart : Apart maxDelta group later) (inside : other ⊆ later) :
    Apart maxDelta group other :=
  fun c member d atOther => apart c member d (inside atOther)

/-- Clusters that end by some time, together with others that end later, are known from their whole. -/
theorem perm_divide {within beyond within' beyond' : List Cluster}
    (same : (within ++ beyond).Perm (within' ++ beyond'))
    (low : ∀ c ∈ within, c.timeEnd.toNat ≤ time) (high : ∀ c ∈ beyond, time < c.timeEnd.toNat)
    (low' : ∀ c ∈ within', c.timeEnd.toNat ≤ time) (high' : ∀ c ∈ beyond', time < c.timeEnd.toNat) :
    within.Perm within' ∧ beyond.Perm beyond' := by
  have early {within beyond : List Cluster} (low : ∀ c ∈ within, c.timeEnd.toNat ≤ time)
      (high : ∀ c ∈ beyond, time < c.timeEnd.toNat) :
      ((within ++ beyond).filter fun c => c.timeEnd.toNat ≤ time) = within := by
    have all : (within.filter fun c => c.timeEnd.toNat ≤ time) = within :=
      List.filter_eq_self.mpr fun c member => decide_eq_true (low c member)
    have none : (beyond.filter fun c => c.timeEnd.toNat ≤ time) = [] :=
      List.filter_eq_nil_iff.mpr fun c member before => (high c member).not_ge (of_decide_eq_true before)
    rw [List.filter_append, all, none, List.append_nil]
  have first := same.filter fun c => c.timeEnd.toNat ≤ time
  rw [early low high, early low' high'] at first
  exact ⟨first, (List.perm_append_left_iff within).mp (same.trans (first.symm.append_right beyond'))⟩

theorem perm_filter_end (time : Nat) (clusters : List Cluster) :
    clusters.Perm ((clusters.filter fun c => c.timeEnd.toNat ≤ time) ++
      clusters.filter fun c => time < c.timeEnd.toNat) := by
  have both := (List.filter_append_perm (fun c : Cluster => decide (c.timeEnd.toNat ≤ time)) clusters).symm
  have negated : (fun c : Cluster => !decide (c.timeEnd.toNat ≤ time)) = fun c => decide (time < c.timeEnd.toNat) := by
    funext c
    rw [← decide_not, decide_eq_decide]
    omega
  rwa [negated] at both

namespace Chains

theorem tail (chains : Chains maxDelta (group :: groups)) : Chains maxDelta groups where
  filled := fun other member => chains.filled other (List.mem_cons_of_mem group member)
  linked := fun other member => chains.linked other (List.mem_cons_of_mem group member)
  apart := (List.pairwise_cons.mp chains.apart).2

theorem cons (chains : Chains maxDelta groups) (some : group ≠ []) (linked : Linked maxDelta group)
    (apart : ∀ other ∈ groups, Apart maxDelta group other) : Chains maxDelta (group :: groups) where
  filled := by simpa [some] using chains.filled
  linked := by simpa [linked] using chains.linked
  apart := List.pairwise_cons.mpr ⟨apart, chains.apart⟩

theorem append (first : Chains maxDelta groups) (second : Chains maxDelta others)
    (apart : ∀ group ∈ groups, ∀ other ∈ others, Apart maxDelta group other) :
    Chains maxDelta (groups ++ others) where
  filled := by
    intro group member
    rcases List.mem_append.mp member with old | new
    · exact first.filled group old
    · exact second.filled group new
  linked := by
    intro group member
    rcases List.mem_append.mp member with old | new
    · exact first.linked group old
    · exact second.linked group new
  apart := List.pairwise_append.mpr ⟨first.apart, second.apart, apart⟩

theorem split (chains : Chains maxDelta (groups ++ others)) :
    Chains maxDelta groups ∧ Chains maxDelta others ∧
      ∀ group ∈ groups, ∀ other ∈ others, Apart maxDelta group other := by
  obtain ⟨front, back, cross⟩ := List.pairwise_append.mp chains.apart
  refine ⟨⟨fun group member => ?_, fun group member => ?_, front⟩,
    ⟨fun group member => ?_, fun group member => ?_, back⟩, cross⟩
  · exact chains.filled group (List.mem_append_left others member)
  · exact chains.linked group (List.mem_append_left others member)
  · exact chains.filled group (List.mem_append_right groups member)
  · exact chains.linked group (List.mem_append_right groups member)

theorem nil : Chains maxDelta [] := ⟨by simp, by simp, .nil⟩

theorem single (some : group ≠ []) (linked : Linked maxDelta group) : Chains maxDelta [group] :=
  nil.cons some linked (by simp)

theorem concat (chains : Chains maxDelta groups) (some : group ≠ []) (linked : Linked maxDelta group)
    (apart : ∀ earlier ∈ groups, Apart maxDelta earlier group) : Chains maxDelta (groups ++ [group]) := by
  refine chains.append (single some linked) fun earlier member last atLast => ?_
  rw [List.mem_singleton.mp atLast]
  exact apart earlier member

/-- Every cluster of the groups behind the first ends too late for it. -/
theorem beyond (chains : Chains maxDelta (group :: groups)) (last : EndsAt group time) {c : Cluster}
    (member : c ∈ groups.flatten) : time + maxDelta < c.timeEnd.toNat := by
  obtain ⟨other, inside, atOther⟩ := List.mem_flatten.mp member
  obtain ⟨⟨final, atFinal, value⟩, _⟩ := last
  have far := (List.pairwise_cons.mp chains.apart).1 other inside final atFinal c atOther
  omega

theorem after (chains : Chains maxDelta (group :: groups)) (last : EndsAt group time) {c : Cluster}
    (member : c ∈ groups.flatten) : time < c.timeEnd.toNat :=
  (Nat.le_add_right time maxDelta).trans_lt (chains.beyond last member)

/-- The first groups of two ways to divide the same clusters end at the same time. -/
theorem first_le {time' : Nat} (chains : Chains maxDelta (group :: groups))
    (chains' : Chains maxDelta (other :: others)) (last : EndsAt group time) (last' : EndsAt other time')
    (same : (group :: groups).flatten.Perm (other :: others).flatten) : time' ≤ time := by
  by_contra longer
  obtain ⟨final, atFinal, value⟩ := last.1
  obtain ⟨final', atFinal', value'⟩ := last'.1
  have inOther : final ∈ other := by
    have inside := same.mem_iff.mp (List.mem_append_left _ atFinal)
    rcases List.mem_append.mp inside with first | later
    · exact first
    · have far := chains'.beyond last' later
      omega
  obtain ⟨next, atNext, after, close⟩ :=
    chains'.linked other List.mem_cons_self final inOther final' atFinal' (by omega)
  have inside := same.mem_iff.mpr (List.mem_append_left _ atNext)
  rcases List.mem_append.mp inside with first | later
  · have low := last.2 next first
    omega
  · have far := chains.beyond last later
    omega

/-- There is one way to divide clusters, whatever order they are in. -/
theorem unique (chains : Chains maxDelta groups) (chains' : Chains maxDelta others)
    (same : groups.flatten.Perm others.flatten) : List.Forall₂ List.Perm groups others := by
  induction groups generalizing others with
  | nil =>
    cases others with
    | nil => exact .nil
    | cons other others =>
      have none := same.symm.eq_nil
      rw [List.flatten_cons, List.append_eq_nil_iff] at none
      exact absurd none.1 (chains'.filled other List.mem_cons_self)
  | cons group groups ih =>
    cases others with
    | nil =>
      have none := same.eq_nil
      rw [List.flatten_cons, List.append_eq_nil_iff] at none
      exact absurd none.1 (chains.filled group List.mem_cons_self)
    | cons other others =>
      obtain ⟨time, last⟩ := exists_endsAt (chains.filled group List.mem_cons_self)
      obtain ⟨time', last'⟩ := exists_endsAt (chains'.filled other List.mem_cons_self)
      have equal : time' = time :=
        Nat.le_antisymm (first_le chains chains' last last' same) (first_le chains' chains last' last same.symm)
      rw [equal] at last'
      rw [List.flatten_cons, List.flatten_cons] at same
      obtain ⟨first, rest⟩ := perm_divide same last.2 (fun c member => chains.after last member) last'.2
        fun c member => chains'.after last' member
      exact .cons first (ih chains.tail chains'.tail rest)

/-- Around one group, the others end before it or after it. -/
theorem around {broken rest : List (List Cluster)} {start : List Cluster}
    (chains : Chains maxDelta (broken ++ start :: rest)) (through : ∃ c ∈ start, c.timeEnd.toNat = time) :
    (∀ c ∈ broken.flatten, c.timeEnd.toNat < time) ∧ ∀ c ∈ rest.flatten, time < c.timeEnd.toNat := by
  obtain ⟨same, atSame, value⟩ := through
  obtain ⟨_, behind, cross⟩ := chains.split
  constructor
  · intro c member
    obtain ⟨group, inside, atGroup⟩ := List.mem_flatten.mp member
    have far := cross group inside start List.mem_cons_self c atGroup same atSame
    omega
  · intro c member
    obtain ⟨group, inside, atGroup⟩ := List.mem_flatten.mp member
    have far := (List.pairwise_cons.mp behind.apart).1 group inside same atSame c atGroup
    omega

/-- What ends by the time of a cluster of one group are the groups before and the first part of this one. -/
theorem perm_around {broken rest : List (List Cluster)} {start within beyond : List Cluster}
    (chains : Chains maxDelta (broken ++ start :: rest)) (through : ∃ c ∈ start, c.timeEnd.toNat = time)
    (parts : (broken ++ start :: rest).flatten.Perm (within ++ beyond))
    (low : ∀ c ∈ within, c.timeEnd.toNat ≤ time) (high : ∀ c ∈ beyond, time < c.timeEnd.toNat) :
    (broken.flatten ++ start.filter fun c => c.timeEnd.toNat ≤ time).Perm within ∧
      ((start.filter fun c => time < c.timeEnd.toNat) ++ rest.flatten).Perm beyond := by
  obtain ⟨before, after⟩ := chains.around through
  have divided := ((perm_filter_end time start).append_right rest.flatten).append_left broken.flatten
  rw [← List.flatten_cons, ← List.flatten_append, List.append_assoc, ← List.append_assoc] at divided
  refine perm_divide (divided.symm.trans parts) (fun c member => ?_) (fun c member => ?_) low high
  · rcases List.mem_append.mp member with earlier | first
    · exact (before c earlier).le
    · exact of_decide_eq_true (List.mem_filter.mp first).2
  · rcases List.mem_append.mp member with last | later
    · exact of_decide_eq_true (List.mem_filter.mp last).2
    · exact after c later

/-- Clusters are divided that start with what was remade of a group. If this holds together, the
group is continued as it would have been, and if not it is broken up. -/
theorem resume {remade later : List Cluster} (chains : Chains maxDelta groups)
    (parts : groups.flatten.Perm (remade ++ later)) (remadeEnd : EndsAt remade time)
    (beyond : ∀ c ∈ later, time < c.timeEnd.toNat) (linked : Linked maxDelta group) (groupEnd : EndsAt group time) :
    ∃ broken start added rest, groups = broken ++ start :: rest ∧
      Chains maxDelta ((group ++ added) :: rest) ∧ later.Perm (added ++ rest.flatten) ∧
      (broken = [] → start.Perm (remade ++ added)) ∧ (Linked maxDelta remade ↔ broken = []) := by
  obtain ⟨same, atSame, value⟩ := remadeEnd.1
  obtain ⟨start, inside, atStart⟩ := List.mem_flatten.mp (parts.mem_iff.mpr (List.mem_append_left later atSame))
  obtain ⟨broken, rest, rfl⟩ := List.append_of_mem inside
  have through : ∃ c ∈ start, c.timeEnd.toNat = time := ⟨same, atStart, value⟩
  obtain ⟨pieces, further⟩ := chains.perm_around through parts remadeEnd.2 beyond
  obtain ⟨earlier, continued, cross⟩ := chains.split
  have startLinked : Linked maxDelta start := chains.linked start inside
  refine ⟨broken, start, _, rest, rfl, ?_, further.symm, ?_, ?_⟩
  · refine continued.tail.cons ?_ (linked.replace groupEnd startLinked through) ?_
    · obtain ⟨c, member, _⟩ := groupEnd.1
      exact List.ne_nil_of_mem (List.mem_append_left _ member)
    · intro other member c atGroup d atOther
      have apart := (List.pairwise_cons.mp continued.apart).1 other member
      rcases List.mem_append.mp atGroup with old | new
      · have low := groupEnd.2 c old
        have far := apart same atStart d atOther
        omega
      · exact apart c (List.mem_filter.mp new).1 d atOther
  · intro none
    rw [none, List.flatten_nil, List.nil_append] at pieces
    exact (perm_filter_end time start).trans (pieces.append_right _)
  · constructor
    · intro whole
      have some : remade ≠ [] := List.ne_nil_of_mem atSame
      have atLast : same ∈ start.filter fun c => c.timeEnd.toNat ≤ time :=
        List.mem_filter.mpr ⟨atStart, decide_eq_true value.le⟩
      have divided : Chains maxDelta (broken ++ [start.filter fun c => c.timeEnd.toNat ≤ time]) :=
        earlier.concat (List.ne_nil_of_mem atLast) (startLinked.until time) fun other member =>
          (cross other member start List.mem_cons_self).mono (List.filter_subset_self start)
      have count := (unique divided (single some whole) (by simpa using pieces)).length_eq
      simpa using count
    · intro none
      rw [none, List.flatten_nil, List.nil_append] at pieces
      exact (startLinked.until time).perm pieces

end Chains

end EventFormation
