namespace EventFormation

inductive SlotError
  | lengthExceedsCapacity (index length capacity : Nat)
  | guardOverwritten (index : Nat)
  | indexOutOfRange (index slots : Nat)
  | invalidGeometry (slots slotSize : Nat)
  deriving Repr, DecidableEq

def SlotError.message : SlotError → String
  | lengthExceedsCapacity index length capacity =>
    "length " ++ toString length ++ " exceeds capacity " ++ toString capacity ++
      " of slot " ++ toString index
  | guardOverwritten index => "guard bytes of slot " ++ toString index ++ " overwritten"
  | indexOutOfRange index slots =>
    "slot index " ++ toString index ++ " out of range for " ++ toString slots ++ " slots"
  | invalidGeometry slots slotSize =>
    "invalid slot geometry: " ++ toString slots ++ " slots of " ++ toString slotSize ++ " bytes"

/-- What stops a computation for good. Sizes and times are 64-bit words, and leaving
their range is never silent unless an operation says that it saturates or wraps. -/
inductive Fault
  | sumOverflow
  | productOverflow
  | capacityOverflow
  | /-- A receiver claims to have filled more than its slot. -/ misreported (error : SlotError)
  | /-- Something wrote behind the end of a slot. -/ overrun (error : SlotError)
  deriving Repr, DecidableEq

def Fault.message : Fault → String
  | sumOverflow => "attempt to add with overflow"
  | productOverflow => "attempt to multiply with overflow"
  | capacityOverflow => "capacity overflow"
  | misreported error => "receive reported more than the slot holds: " ++ error.message
  | overrun error => "slot buffer overrun: " ++ error.message

def wordCount : Nat := 18446744073709551616

/-- Most bytes that one block of memory may hold. -/
def maxBlockBytes : Nat := 9223372036854775807

/-- The sum, if it is still a word. -/
def checkedSum (a b : Nat) : Except Fault Nat :=
  if a + b < wordCount then .ok (a + b) else .error .sumOverflow

def checkedProduct (a b : Nat) : Except Fault Nat :=
  if a * b < wordCount then .ok (a * b) else .error .productOverflow

/-- Refuses a block of `count` items of `size` bytes that no memory can hold. Any smaller
block is taken to be available. -/
def checkCapacity (count size : Nat) : Except Fault Unit :=
  if count * size ≤ maxBlockBytes then .ok () else .error .capacityOverflow

theorem checkedSum_eq_ok_iff {a b c : Nat} :
    checkedSum a b = .ok c ↔ a + b < wordCount ∧ c = a + b := by
  unfold checkedSum
  split <;> simp only [Except.ok.injEq, reduceCtorEq, false_iff, not_and] <;> omega

theorem checkedProduct_eq_ok_iff {a b c : Nat} :
    checkedProduct a b = .ok c ↔ a * b < wordCount ∧ c = a * b := by
  unfold checkedProduct
  split <;> simp only [Except.ok.injEq, reduceCtorEq, false_iff, not_and] <;> omega

end EventFormation
