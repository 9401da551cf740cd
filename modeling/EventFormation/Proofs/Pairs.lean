import Mathlib.Data.List.Forall2
import Mathlib.Data.List.SplitBy

namespace EventFormation

variable {α β γ : Type} {R : α → β → Prop} {as : List α} {bs : List β}

/-- Where a list is cut depends on nothing but the keys of its items. -/
theorem map_splitBy {key : α → β} (near : β → β → Bool) (items : List α) :
    (items.splitBy fun a b => near (key a) (key b)).map (List.map key) = (items.map key).splitBy near := by
  symm
  rw [List.splitBy_eq_iff]
  refine ⟨?_, ?_, ?_, ?_⟩
  · rw [← List.map_flatten, List.flatten_splitBy]
  · simp
  · intro keys member
    obtain ⟨group, inside, rfl⟩ := List.mem_map.mp member
    exact (List.isChain_map key).mpr (List.isChain_of_mem_splitBy inside)
  · refine (List.isChain_map _).mpr ((List.isChain_getLast_head_splitBy _ items).imp ?_)
    rintro group next ⟨filled, some, far⟩
    refine ⟨by simpa using filled, by simpa using some, ?_⟩
    rw [List.getLast_map, List.head_map]
    exact far

/-- Lists whose items agree in pairs are made from one list of pairs. -/
theorem forall₂_eq_map (same : List.Forall₂ R as bs) :
    ∃ pairs : List { pair : α × β // R pair.1 pair.2 }, pairs.map (·.1.1) = as ∧ pairs.map (·.1.2) = bs := by
  induction same with
  | nil => exact ⟨[], rfl, rfl⟩
  | @cons a b _ _ agree _ ih =>
    obtain ⟨pairs, left, right⟩ := ih
    exact ⟨⟨(a, b), agree⟩ :: pairs, by rw [List.map_cons, left], by rw [List.map_cons, right]⟩

theorem forall₂_map_pairs (pairs : List { pair : α × β // R pair.1 pair.2 }) :
    List.Forall₂ R (pairs.map (·.1.1)) (pairs.map (·.1.2)) := by
  rw [List.forall₂_map_left_iff, List.forall₂_map_right_iff, List.forall₂_same]
  exact fun pair _ => pair.2

theorem map_eq_of_forall₂ {f : α → γ} {g : β → γ} (same : List.Forall₂ R as bs) (agree : ∀ {a b}, R a b → f a = g b) :
    as.map f = bs.map g := by
  rw [← List.forall₂_eq_eq_eq]
  exact List.rel_map (fun _ _ pair => agree pair) same

theorem forall₂_mem_left (same : List.Forall₂ R as bs) {a : α} (member : a ∈ as) : ∃ b ∈ bs, R a b := by
  obtain ⟨pairs, rfl, rfl⟩ := forall₂_eq_map same
  obtain ⟨pair, inside, rfl⟩ := List.mem_map.mp member
  exact ⟨pair.1.2, List.mem_map_of_mem inside, pair.2⟩

theorem forall₂_mem_right (same : List.Forall₂ R as bs) {b : β} (member : b ∈ bs) : ∃ a ∈ as, R a b := by
  have flipped : List.Forall₂ (fun b a => R a b) bs as := same.flip
  exact forall₂_mem_left flipped member

theorem forall₂_imp_mem {S : α → β → Prop} (same : List.Forall₂ R as bs)
    (step : ∀ a ∈ as, ∀ b ∈ bs, R a b → S a b) : List.Forall₂ S as bs := by
  obtain ⟨length, pairs⟩ := List.forall₂_iff_zip.mp same
  refine List.forall₂_iff_zip.mpr ⟨length, fun {a b} member => ?_⟩
  obtain ⟨left, right⟩ := List.of_mem_zip member
  exact step a left b right (pairs member)

variable {le : α → α → Bool} {le' : β → β → Bool}

/-- Lists whose items agree in pairs are sorted in the same way. -/
theorem forall₂_mergeSort (same : List.Forall₂ R as bs)
    (agree : ∀ {a b a' b'}, R a b → R a' b' → le a a' = le' b b') :
    List.Forall₂ R (as.mergeSort le) (bs.mergeSort le') := by
  obtain ⟨pairs, rfl, rfl⟩ := forall₂_eq_map same
  let first (x y : { pair : α × β // R pair.1 pair.2 }) : Bool := le x.1.1 y.1.1
  have left : (pairs.mergeSort first).map (·.1.1) = (pairs.map (·.1.1)).mergeSort le :=
    List.map_mergeSort fun _ _ _ _ => rfl
  have right : (pairs.mergeSort first).map (·.1.2) = (pairs.map (·.1.2)).mergeSort le' :=
    List.map_mergeSort fun x _ y _ => agree x.2 y.2
  rw [← left, ← right]
  exact forall₂_map_pairs _

/-- They are also cut in the same places. -/
theorem forall₂_splitBy (same : List.Forall₂ R as bs)
    (agree : ∀ {a b a' b'}, R a b → R a' b' → le a a' = le' b b') :
    List.Forall₂ (List.Forall₂ R) (as.splitBy le) (bs.splitBy le') := by
  obtain ⟨pairs, rfl, rfl⟩ := forall₂_eq_map same
  have both : (fun x y : { pair : α × β // R pair.1 pair.2 } => le x.1.1 y.1.1) = fun x y => le' x.1.2 y.1.2 :=
    funext fun x => funext fun y => agree x.2 y.2
  rw [← map_splitBy le pairs, ← map_splitBy le' pairs, ← both, List.forall₂_map_left_iff, List.forall₂_map_right_iff,
    List.forall₂_same]
  exact fun group _ => forall₂_map_pairs group

end EventFormation
