import EventFormation.Receive.HandoffQueue
import EventFormation.Proofs.Fault
import Mathlib.Data.List.Basic

namespace EventFormation.HandoffQueue

/-- The queued values, oldest first. -/
def contents {α : Type} (q : HandoffQueue α) : List α :=
  (List.range' q.read.toNat q.length).filterMap fun count => q.cells[q.ring.position count]?.join

/-- Of a sequence of values so many have been added, and so many of them have been taken. -/
structure Holds {α : Type} (values : Nat → α) (taken added : Nat) (q : HandoffQueue α) : Prop where
  cells : q.cells.size = q.capacity
  read : q.read.toNat = taken
  write : q.write.toNat = added
  ordered : taken ≤ added
  few : added ≤ taken + q.capacity
  kept : ∀ count, taken ≤ count → count < added → q.cells[count % q.capacity]? = some (some (values count))

variable {α : Type} {values : Nat → α} {taken added : Nat} {q p : HandoffQueue α}

/-- As long as fewer values come one after another than a ring has positions, they are apart. -/
theorem mod_ne_of_lt {first second size : Nat} (before : first < second) (near : second < first + size) :
    first % size ≠ second % size := by
  intro same
  have whole : size ∣ second - first := Nat.dvd_of_mod_eq_zero (Nat.sub_mod_eq_zero_of_mod_eq same.symm)
  have distance := Nat.le_of_dvd (by omega) whole
  omega

theorem Holds.length (holds : Holds values taken added q) : q.length = added - taken := by
  have ordered := holds.ordered
  rw [← holds.read, ← holds.write] at ordered ⊢
  exact UInt64.toNat_sub_of_le _ _ (UInt64.le_iff_toNat_le.mpr ordered)

theorem Holds.isFull (holds : Holds values taken added q) :
    q.isFull = decide (q.capacity ≤ added - taken) := by
  rw [HandoffQueue.isFull, holds.length]

theorem Holds.contents_eq (holds : Holds values taken added q) :
    q.contents = (List.range' taken (added - taken)).map values := by
  rw [contents, holds.read, holds.length, ← List.filterMap_eq_map]
  apply List.filterMap_congr
  intro count member
  obtain ⟨offset, within, rfl⟩ := List.mem_range'.mp member
  have there := holds.kept (taken + 1 * offset) (by omega) (by omega)
  rw [Ring.position]
  simp only [capacity] at there
  rw [there]
  rfl

theorem Holds.push_eq_none_iff (holds : Holds values taken added q) (value : α) :
    q.push value = none ↔ q.capacity ≤ added - taken := by
  unfold push
  rw [holds.isFull]
  split <;> simp_all

theorem Holds.push (holds : Holds values taken added q) {value : α} (next : values added = value)
    (counted : added + 1 < wordCount) (run : q.push value = some p) :
    Holds values taken (added + 1) p := by
  have room : added - taken < q.capacity := by
    by_contra full
    rw [(holds.push_eq_none_iff value).mpr (by omega)] at run
    cases run
  unfold HandoffQueue.push at run
  split at run
  · cases run
  cases run
  have ordered := holds.ordered
  have few := holds.few
  have write := holds.write
  refine ⟨?_, holds.read, ?_, by omega, ?_, ?_⟩
  · simpa [capacity] using holds.cells
  · rw [wordCount] at counted
    rw [UInt64.toNat_add, UInt64.toNat_one, write]
    omega
  · simp only [capacity] at room ⊢
    omega
  · intro count early late
    have inside : q.ring.position added < q.cells.size := by
      rw [holds.cells]
      exact q.ring.position_lt added
    simp only [write, capacity, Array.getElem?_setIfInBounds, inside, if_true]
    by_cases newest : count = added
    · simp [newest, Ring.position, next]
    · have apart : ¬ q.ring.position added = count % q.ring.size := by
        have before : count < added := by omega
        exact Ne.symm (mod_ne_of_lt before (by simp only [capacity] at room; omega))
      rw [if_neg apart]
      exact holds.kept count early (by omega)

theorem Holds.pop_eq_none_iff (holds : Holds values taken added q) :
    q.pop = none ↔ taken = added := by
  have same : q.read = q.write ↔ taken = added := by
    rw [← holds.read, ← holds.write, UInt64.toNat_inj]
  have ordered := holds.ordered
  unfold pop
  by_cases used : q.read = q.write
  · simp [used, same.mp used]
  · have waiting : taken ≠ added := fun equal => used (same.mpr equal)
    have front := holds.kept taken (Nat.le_refl _) (by omega)
    have place : q.ring.position q.read.toNat = taken % q.capacity := by rw [holds.read]; rfl
    simp [used, place, front, waiting]

theorem Holds.pop (holds : Holds values taken added q) {value : α} (run : q.pop = some (value, p)) :
    value = values taken ∧ taken < added ∧ Holds values (taken + 1) added p := by
  have waiting : taken ≠ added := by
    intro used
    rw [holds.pop_eq_none_iff.mpr used] at run
    cases run
  have ordered := holds.ordered
  have front := holds.kept taken (Nat.le_refl _) (by omega)
  have place : q.ring.position q.read.toNat = taken % q.capacity := by rw [holds.read]; rfl
  unfold HandoffQueue.pop at run
  split at run
  · cases run
  rw [place, front] at run
  cases run
  refine ⟨rfl, by omega, holds.cells, ?_, holds.write, by omega, ?_, ?_⟩
  · have below := q.write.toNat_lt
    have write := holds.write
    rw [UInt64.toNat_add, UInt64.toNat_one, holds.read]
    omega
  · have few := holds.few
    simp only [capacity] at few ⊢
    omega
  · intro count early late
    exact holds.kept count (by omega) late

theorem capacity_push {value : α} (run : q.push value = some p) : p.capacity = q.capacity := by
  unfold HandoffQueue.push at run
  split at run
  · cases run
  · cases run
    rfl

theorem capacity_pop {value : α} (run : q.pop = some (value, p)) : p.capacity = q.capacity := by
  unfold HandoffQueue.pop at run
  split at run
  · cases run
  · split at run
    · cases run
      rfl
    · cases run

end EventFormation.HandoffQueue
