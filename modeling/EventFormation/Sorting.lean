namespace EventFormation

variable {α : Type}

/-- Puts the rest of a run that starts with `item` together with another run. `merged` does it for
what comes after `item`. Of equal items those of the first run come first. -/
def mergeFrom (le : α → α → Bool) (item : α) (rest : List α) (merged : List α → List α) : List α → List α
  | [] => item :: rest
  | other :: others =>
    if le item other then item :: merged (other :: others)
    else other :: mergeFrom le item rest merged others

def mergeRuns (le : α → α → Bool) : List α → List α → List α
  | [] => fun others => others
  | item :: rest => mergeFrom le item rest (mergeRuns le rest)

def sortWithin (le : α → α → Bool) : Nat → List α → List α
  | 0, items => items
  | fuel + 1, items =>
    if items.length ≤ 1 then items
    else
      let half := (items.length + 1) / 2
      mergeRuns le (sortWithin le fuel (items.take half)) (sortWithin le fuel (items.drop half))

/-- Stable merge sort. Each half is shorter than the whole, so there are at most as many levels as
items. All of it is structural, so that it can be evaluated on given items. -/
def stableSort (le : α → α → Bool) (items : List α) : List α := sortWithin le items.length items

theorem mergeRuns_eq (le : α → α → Bool) (items others : List α) :
    mergeRuns le items others = List.merge items others le := by
  induction items generalizing others with
  | nil => simp [mergeRuns]
  | cons item rest ih =>
    unfold mergeRuns
    induction others with
    | nil => simp [mergeFrom]
    | cons other others ihOthers =>
      rw [mergeFrom, ih, ihOthers, List.cons_merge_cons]

theorem sortWithin_eq (le : α → α → Bool) {fuel : Nat} {items : List α} (enough : items.length ≤ fuel) :
    sortWithin le fuel items = items.mergeSort le := by
  induction fuel generalizing items with
  | zero =>
    rw [List.length_eq_zero_iff.mp (Nat.le_zero.mp enough)]
    simp [sortWithin]
  | succ fuel ih =>
    unfold sortWithin
    match items, enough with
    | [], _ => simp
    | [item], _ => simp
    | first :: second :: rest, enough =>
      have several : ¬ (first :: second :: rest).length ≤ 1 := by simp
      rw [if_neg several]
      simp only [List.length_cons] at enough
      have left : ((first :: second :: rest).take (((first :: second :: rest).length + 1) / 2)).length ≤ fuel := by
        simp only [List.length_take, List.length_cons]
        omega
      have right : ((first :: second :: rest).drop (((first :: second :: rest).length + 1) / 2)).length ≤ fuel := by
        simp only [List.length_drop, List.length_cons]
        omega
      simp only [mergeRuns_eq, ih left, ih right]
      rw [List.mergeSort]
      simp [List.MergeSort.Internal.splitInTwo_fst, List.MergeSort.Internal.splitInTwo_snd]

theorem stableSort_eq (le : α → α → Bool) (items : List α) : stableSort le items = items.mergeSort le :=
  sortWithin_eq le (Nat.le_refl _)

end EventFormation
