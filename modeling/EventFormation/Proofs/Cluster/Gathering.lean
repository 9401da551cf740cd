import EventFormation.Cluster.Basic
import Mathlib.Data.List.Flatten
import Mathlib.Data.List.Perm.Basic

namespace EventFormation

theorem exists_perm_of_map_perm {α β : Type} {f : α → β} {items : List α} {values : List β}
    (same : (items.map f).Perm values) : ∃ sorted : List α, sorted.Perm items ∧ sorted.map f = values := by
  induction values generalizing items with
  | nil => exact ⟨[], by simpa using same.eq_nil, rfl⟩
  | cons value rest ih =>
    obtain ⟨item, member, atItem⟩ := List.mem_map.mp (same.symm.subset List.mem_cons_self)
    obtain ⟨before, after, split⟩ := List.append_of_mem member
    have front : items.Perm (item :: (before ++ after)) := by rw [split]; exact List.perm_middle
    have others : ((before ++ after).map f).Perm rest := by
      have both := (front.map f).symm.trans same
      rw [List.map_cons, atItem] at both
      exact both.cons_inv
    obtain ⟨sorted, perm, values⟩ := ih others
    exact ⟨item :: sorted, (perm.cons item).trans front.symm, by rw [List.map_cons, atItem, values]⟩

/-- The wholes are put together from the parts. Every part is in exactly one group, and the hits of
a whole are those of its group, one part after another. -/
def Gathered (parts wholes : List Cluster) : Prop :=
  ∃ groups : List (List Cluster), groups.flatten.Perm parts ∧
    wholes.map Cluster.hits = groups.map (·.flatMap Cluster.hits)

namespace Gathered

theorem refl (parts : List Cluster) : Gathered parts parts :=
  ⟨parts.map ([·]), by simp [← List.flatMap_def], by simp⟩

theorem single {parts : List Cluster} {whole : Cluster}
    (same : whole.hits = parts.flatMap Cluster.hits) : Gathered parts [whole] :=
  ⟨[parts], by simp, by simp [same]⟩

theorem perm_left {parts parts' wholes : List Cluster} (gathered : Gathered parts wholes)
    (perm : parts.Perm parts') : Gathered parts' wholes := by
  obtain ⟨groups, members, hits⟩ := gathered
  exact ⟨groups, members.trans perm, hits⟩

theorem perm_right {parts wholes wholes' : List Cluster} (gathered : Gathered parts wholes)
    (perm : wholes.Perm wholes') : Gathered parts wholes' := by
  obtain ⟨groups, members, hits⟩ := gathered
  have same : (groups.map (·.flatMap Cluster.hits)).Perm (wholes'.map Cluster.hits) := by
    rw [← hits]
    exact perm.map _
  obtain ⟨sorted, order, values⟩ := exists_perm_of_map_perm same
  exact ⟨sorted, order.flatten.trans members, values.symm⟩

theorem append {parts parts' wholes wholes' : List Cluster} (first : Gathered parts wholes)
    (second : Gathered parts' wholes') : Gathered (parts ++ parts') (wholes ++ wholes') := by
  obtain ⟨groups, members, hits⟩ := first
  obtain ⟨groups', members', hits'⟩ := second
  exact ⟨groups ++ groups', by rw [List.flatten_append]; exact members.append members',
    by rw [List.map_append, List.map_append, hits, hits']⟩

theorem flatMap_hits_flatten (groups : List (List Cluster)) :
    groups.flatten.flatMap Cluster.hits = (groups.map (·.flatMap Cluster.hits)).flatten := by
  rw [List.flatMap_def, List.map_flatten, List.flatten_flatten, List.map_map]
  rfl

/-- Groups whose hits are those of the members of larger groups can be put together in the same way. -/
theorem merge_groups {small large : List (List Cluster)}
    (same : small.map (·.flatMap Cluster.hits) = large.flatten.map Cluster.hits) :
    ∃ merged : List (List Cluster), merged.flatten = small.flatten ∧
      merged.map (·.flatMap Cluster.hits) = large.map (·.flatMap Cluster.hits) := by
  induction large generalizing small with
  | nil =>
    have none : small = [] := by simpa using same
    exact ⟨[], by rw [none], rfl⟩
  | cons group rest ih =>
    rw [List.flatten_cons, List.map_append] at same
    obtain ⟨first, others, split, atFirst, atOthers⟩ := List.map_eq_append_iff.mp same
    obtain ⟨merged, members, hits⟩ := ih atOthers
    refine ⟨first.flatten :: merged, by rw [List.flatten_cons, members, split, List.flatten_append], ?_⟩
    have together : first.flatten.flatMap Cluster.hits = group.flatMap Cluster.hits := by
      rw [flatMap_hits_flatten, atFirst, List.flatMap_def]
    rw [List.map_cons, List.map_cons, together, hits]

theorem trans {parts middle wholes : List Cluster} (first : Gathered parts middle)
    (second : Gathered middle wholes) : Gathered parts wholes := by
  obtain ⟨large, members, hits⟩ := second
  obtain ⟨small, members', hits'⟩ := first.perm_right members.symm
  obtain ⟨merged, together, hits''⟩ := merge_groups hits'.symm
  exact ⟨merged, by rw [together]; exact members', by rw [hits, hits'']⟩

theorem hits_perm {parts wholes : List Cluster} (gathered : Gathered parts wholes) :
    (parts.flatMap Cluster.hits).Perm (wholes.flatMap Cluster.hits) := by
  obtain ⟨groups, members, hits⟩ := gathered
  refine (members.symm.flatMap_right _).trans ?_
  rw [flatMap_hits_flatten, ← hits, ← List.flatMap_def]

end Gathered

end EventFormation
