import EventFormation.Sorting

namespace EventFormation

/-- One detector signal: when and where it was read out, and its amplitude. -/
structure Hit where
  time : UInt64
  plane : UInt8
  coordinate : UInt16
  weight : UInt16
  deriving Repr, DecidableEq, Inhabited

/-- Stands where a plane is required but none applies. No detector plane has this number. -/
def Hit.reservedPlane : UInt8 := 255

/-- Chronological order. Hits of one time keep their relative order. -/
def Hit.sortByTime (hits : List Hit) : List Hit :=
  stableSort (fun a b => decide (a.time ≤ b.time)) hits

def Hit.sortByCoordinate (hits : List Hit) : List Hit :=
  stableSort (fun a b => decide (a.coordinate ≤ b.coordinate)) hits

theorem Hit.sortByTime_perm (hits : List Hit) : (sortByTime hits).Perm hits := by
  rw [sortByTime, stableSort_eq]
  exact List.mergeSort_perm hits _

theorem Hit.sortByCoordinate_perm (hits : List Hit) : (sortByCoordinate hits).Perm hits := by
  rw [sortByCoordinate, stableSort_eq]
  exact List.mergeSort_perm hits _

theorem Hit.sortByTime_pairwise (hits : List Hit) :
    (sortByTime hits).Pairwise fun a b => a.time ≤ b.time := by
  have sorted := @List.pairwise_mergeSort Hit (fun a b => decide (a.time ≤ b.time))
    (fun a b c hab hbc => by simp only [decide_eq_true_eq] at *; exact UInt64.le_trans hab hbc)
    (fun a b => by simpa using UInt64.le_total a.time b.time) hits
  simpa only [sortByTime, stableSort_eq, decide_eq_true_eq] using sorted

theorem Hit.sortByCoordinate_pairwise (hits : List Hit) :
    (sortByCoordinate hits).Pairwise fun a b => a.coordinate ≤ b.coordinate := by
  have sorted := @List.pairwise_mergeSort Hit (fun a b => decide (a.coordinate ≤ b.coordinate))
    (fun a b c hab hbc => by simp only [decide_eq_true_eq] at *; exact UInt16.le_trans hab hbc)
    (fun a b => by simpa using UInt16.le_total a.coordinate b.coordinate) hits
  simpa only [sortByCoordinate, stableSort_eq, decide_eq_true_eq] using sorted

end EventFormation
