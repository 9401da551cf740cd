import EventFormation.Receive.SlotBuffer
import EventFormation.Proofs.Fault
import Mathlib.Data.List.Basic

namespace EventFormation.SlotBuffer

/-- All bytes of a slot, whether they hold data or not. -/
def slot (b : SlotBuffer) (index : Nat) : List UInt8 := b.bytesAt (index * b.stride) b.slotSize

def guard (b : SlotBuffer) (index : Nat) : List UInt8 :=
  b.bytesAt (index * b.stride + b.slotSize) guardBytes.length

/-- The buffer keeps its geometry, and no guard has been overwritten. -/
structure Intact (count size : Nat) (b : SlotBuffer) : Prop where
  slots : b.slots = count
  slotSize : b.slotSize = size
  lengths : b.lengths.size = count
  short : ∀ index, b.lengths.getD index 0 ≤ size
  guards : ∀ index, b.guard index = guardBytes

variable {b q : SlotBuffer} {count size index offset other length : Nat} {bytes : List UInt8}

theorem length_bytesAt (b : SlotBuffer) (place count : Nat) : (b.bytesAt place count).length = count := by
  simp [bytesAt]

theorem Intact.length_slot (intact : b.Intact count size) (index : Nat) : (b.slot index).length = size := by
  rw [slot, length_bytesAt, intact.slotSize]

theorem bytesAt_eq_take (b : SlotBuffer) (place : Nat) {part whole : Nat} (within : part ≤ whole) :
    b.bytesAt place part = (b.bytesAt place whole).take part := by
  rw [bytesAt, bytesAt, ← List.map_take, List.take_range'_of_length_ge within]

theorem guard_blank (fresh : b.written = {}) (index : Nat) : b.guard index = guardBytes := by
  apply List.ext_getElem
  · exact b.length_bytesAt _ _
  · intro offset inside within
    have place : (index * b.stride + b.slotSize + offset) % b.stride = b.slotSize + offset := by
      rw [Nat.add_assoc]
      exact Nat.mul_add_mod_of_lt (show b.slotSize + offset < b.stride from Nat.add_lt_add_left within _)
    have apart : ¬ b.slotSize + offset < b.slotSize := by omega
    rw [stride] at place
    simp only [guard, bytesAt, List.getElem_map, List.getElem_range', Nat.one_mul, byteAt, fresh,
      blankByte, stride, place, if_neg apart]
    simp [within]

theorem slot_blank (fresh : b.written = {}) (index : Nat) : b.slot index = List.replicate b.slotSize 0 := by
  apply List.ext_getElem
  · simp only [slot, length_bytesAt, List.length_replicate]
  · intro offset inside within
    rw [List.length_replicate] at within
    have place : (index * b.stride + offset) % b.stride = offset :=
      Nat.mul_add_mod_of_lt (Nat.lt_add_right _ within)
    rw [stride] at place
    simp only [slot, bytesAt, List.getElem_map, List.getElem_range', Nat.one_mul, byteAt, fresh, blankByte, stride,
      place, if_pos within, List.getElem_replicate]
    rfl

/-- Memory is found for what one block can hold. -/
theorem memorySize_eq_ok_iff (some : 0 < count) :
    (∃ total, memorySize count size = .ok total) ↔ count * (size + guardBytes.length) ≤ maxBlockBytes := by
  have limit : maxBlockBytes < wordCount := by decide
  constructor
  · rintro ⟨total, run⟩
    obtain ⟨stride, sum, run⟩ := bind_eq_ok_iff.mp run
    obtain ⟨product, whole, run⟩ := bind_eq_ok_iff.mp run
    obtain ⟨_, check, _⟩ := bind_eq_ok_iff.mp run
    obtain ⟨_, rfl⟩ := checkedSum_eq_ok_iff.mp sum
    obtain ⟨_, rfl⟩ := checkedProduct_eq_ok_iff.mp whole
    by_contra large
    rw [checkCapacity, Nat.mul_one, if_neg large] at check
    cases check
  · intro fits
    have stride : size + guardBytes.length ≤ count * (size + guardBytes.length) := Nat.le_mul_of_pos_left _ some
    have sum : checkedSum size guardBytes.length = .ok (size + guardBytes.length) :=
      checkedSum_eq_ok_iff.mpr ⟨by omega, rfl⟩
    have product : checkedProduct count (size + guardBytes.length) =
        .ok (count * (size + guardBytes.length)) := checkedProduct_eq_ok_iff.mpr ⟨by omega, rfl⟩
    refine ⟨count * (size + guardBytes.length), ?_⟩
    rw [memorySize, sum]
    simp only [bind, Except.bind]
    rw [product]
    simp only [checkCapacity, Nat.mul_one, if_pos fits]
    rfl

/-- A buffer that nothing has been written to. -/
def blank (count size : Nat) (positive : 0 < count) : SlotBuffer where
  ring := ⟨count, positive⟩
  slotSize := size
  lengths := Array.replicate count 0

theorem allocate_eq_ok_iff (positive : 0 < count) (some : 0 < size) :
    allocate count size = .ok (.ok b) ↔
      count * (size + guardBytes.length) ≤ maxBlockBytes ∧ b = blank count size positive := by
  have filled : size ≠ 0 := by omega
  simp only [allocate, Ring.ofSize?, dif_pos positive, if_neg filled, Except.ok.injEq]
  rw [← memorySize_eq_ok_iff positive]
  cases memorySize count size with
  | error fault =>
    constructor
    · intro new
      cases new
    · rintro ⟨⟨total, none⟩, _⟩
      cases none
  | ok total =>
    constructor
    · intro new
      cases new
      exact ⟨⟨total, rfl⟩, rfl⟩
    · rintro ⟨_, rfl⟩
      rfl

/-- What fits into memory has fewer slots than there are words. -/
theorem lt_wordCount_of_fits (fits : count * (size + guardBytes.length) ≤ maxBlockBytes) : count < wordCount := by
  have guarded : count * guardBytes.length ≤ count * (size + guardBytes.length) :=
    Nat.mul_le_mul_left count (Nat.le_add_left _ size)
  simp only [guardBytes, List.length_cons, List.length_nil, maxBlockBytes, wordCount] at guarded fits ⊢
  omega

theorem blank_intact (positive : 0 < count) : (blank count size positive).Intact count size := by
  refine ⟨rfl, rfl, Array.size_replicate, ?_, guard_blank rfl⟩
  intro index
  simp only [blank, Array.getD_eq_getD_getElem?, Array.getElem?_replicate]
  split <;> exact Nat.zero_le _

theorem checkIndex_eq_ok (inside : index < b.slots) : b.checkIndex index = .ok () := by
  have contained : b.ring.contains index = true := by simpa [Ring.contains, slots] using inside
  rw [checkIndex, if_pos contained]

theorem checkIndex_eq_error (outside : ¬ index < b.slots) :
    b.checkIndex index = .error (.indexOutOfRange index b.slots) := by
  have contained : ¬ b.ring.contains index = true := by simpa [Ring.contains, slots] using outside
  rw [checkIndex, if_neg contained]

/-- A write does nothing but put bytes into its slot. -/
theorem write_eq_ok (inside : index < b.slots) (offset : Nat) (bytes : List UInt8) :
    b.write index offset bytes = .ok { b with
      written := writeFrom b.written (index * b.stride + offset) (bytes.take (b.slotSize - offset)) } := by
  rw [write, checkIndex_eq_ok inside]
  rfl

theorem write_nil (inside : index < b.slots) : b.write index offset [] = .ok b := by
  rw [write_eq_ok inside, List.take_nil, writeFrom]

theorem lengths_write (run : b.write index offset bytes = .ok q) (inside : index < b.slots) :
    q.lengths = b.lengths := by
  rw [write_eq_ok inside] at run
  cases run
  rfl

/-- Memory outside the slot that is written stays as it is. -/
theorem bytesAt_write_of_disjoint {place amount : Nat} (run : b.write index offset bytes = .ok q)
    (inside : index < b.slots)
    (apart : place + amount ≤ index * b.stride ∨ index * b.stride + b.slotSize ≤ place) :
    q.bytesAt place amount = b.bytesAt place amount := by
  rw [write_eq_ok inside] at run
  cases run
  apply List.map_congr_left
  intro address member
  obtain ⟨step, within, rfl⟩ := List.mem_range'.mp member
  simp only [byteAt, Nat.one_mul]
  rcases apart with before | after
  · exact getD_writeFrom_of_lt _ _ _ (by omega)
  · by_cases early : place + step < index * b.stride + offset
    · exact getD_writeFrom_of_lt _ _ _ early
    · obtain ⟨distance, far⟩ := Nat.exists_eq_add_of_le (Nat.not_lt.mp early)
      have none : (bytes.take (b.slotSize - offset))[distance]? = none := by
        rw [List.getElem?_eq_none_iff, List.length_take]
        omega
      rw [far, getD_writeFrom_add, none]
      rfl

/-- Slots with their guards lie one behind another. -/
theorem stride_le_of_lt (b : SlotBuffer) (before : index < other) :
    index * b.stride + b.stride ≤ other * b.stride := by
  rw [← Nat.succ_mul]
  exact Nat.mul_le_mul_right b.stride before

theorem geometry_write (run : b.write index offset bytes = .ok q) (inside : index < b.slots) :
    q.stride = b.stride ∧ q.slotSize = b.slotSize := by
  rw [write_eq_ok inside] at run
  cases run
  exact ⟨rfl, rfl⟩

theorem slot_write_of_ne (run : b.write index offset bytes = .ok q) (inside : index < b.slots)
    (apart : other ≠ index) : q.slot other = b.slot other := by
  have geometry := geometry_write run inside
  have guarded : b.stride = b.slotSize + guardBytes.length := rfl
  rw [slot, slot, geometry.1, geometry.2]
  apply bytesAt_write_of_disjoint run inside
  rcases Nat.lt_or_gt_of_ne apart with before | after
  · have behind := b.stride_le_of_lt before
    omega
  · have behind := b.stride_le_of_lt after
    omega

/-- What becomes of some bytes when others are put over them from an offset on. What would go past the end of the old
ones is left out. -/
def overlay (old : List UInt8) (offset : Nat) (bytes : List UInt8) : List UInt8 :=
  old.take offset ++ bytes.take (old.length - offset) ++ old.drop (offset + bytes.length)

theorem overlay_zero (old bytes : List UInt8) :
    overlay old 0 bytes = bytes.take old.length ++ old.drop bytes.length := by
  rw [overlay, List.take_zero, List.nil_append, Nat.sub_zero, Nat.zero_add]

@[simp] theorem length_overlay (old : List UInt8) (offset : Nat) (bytes : List UInt8) :
    (overlay old offset bytes).length = old.length := by
  simp only [overlay, List.length_append, List.length_take, List.length_drop]
  omega

theorem getElem_overlay {old : List UInt8} {place : Nat} (inside : place < old.length)
    (within : place < (overlay old offset bytes).length) :
    (overlay old offset bytes)[place] =
      if place < offset then old[place] else bytes[place - offset]?.getD old[place] := by
  unfold overlay at within ⊢
  by_cases before : place < offset
  · grind
  · by_cases new : place - offset < bytes.length
    · grind
    · grind

/-- A byte of the slot that is written. -/
theorem byteAt_write (run : b.write index offset bytes = .ok q) (inside : index < b.slots) {place : Nat}
    (short : place < b.slotSize) : q.byteAt (index * b.stride + place) =
      if place < offset then b.byteAt (index * b.stride + place)
      else bytes[place - offset]?.getD (b.byteAt (index * b.stride + place)) := by
  rw [write_eq_ok inside] at run
  cases run
  by_cases before : place < offset
  · rw [if_pos before]
    exact getD_writeFrom_of_lt _ _ _ (by omega)
  · have there : index * b.stride + place = index * b.stride + offset + (place - offset) := by omega
    have fitting : (bytes.take (b.slotSize - offset))[place - offset]? = bytes[place - offset]? :=
      List.getElem?_take_of_lt (by omega)
    rw [if_neg before, there, ← fitting]
    exact getD_writeFrom_add ..

theorem slot_write_self (run : b.write index offset bytes = .ok q) (inside : index < b.slots) :
    q.slot index = overlay (b.slot index) offset bytes := by
  have geometry := geometry_write run inside
  apply List.ext_getElem
  · simp only [slot, length_bytesAt, length_overlay, geometry.2]
  · intro place within _
    have short : place < b.slotSize := by simpa only [slot, length_bytesAt, geometry.2] using within
    rw [getElem_overlay (by simpa only [slot, length_bytesAt] using short)]
    simp only [slot, bytesAt, List.getElem_map, List.getElem_range', Nat.one_mul, geometry.1]
    exact byteAt_write run inside short

theorem guard_write (run : b.write index offset bytes = .ok q) (inside : index < b.slots) (other : Nat) :
    q.guard other = b.guard other := by
  have geometry := geometry_write run inside
  have guarded : b.stride = b.slotSize + guardBytes.length := rfl
  rw [guard, guard, geometry.1, geometry.2]
  apply bytesAt_write_of_disjoint run inside
  rcases Nat.lt_or_ge other index with before | after
  · have behind := b.stride_le_of_lt before
    omega
  · have behind := Nat.mul_le_mul_right b.stride after
    omega

end EventFormation.SlotBuffer
