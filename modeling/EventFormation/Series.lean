namespace EventFormation

/-- Items in the order in which they came. They are kept newest first, so another one is added at
once however many there are. -/
structure Series (α : Type) where
  newestFirst : List α := []
  deriving Repr, DecidableEq, Inhabited

namespace Series

variable {α : Type}

/-- The items, oldest first. -/
def toList (s : Series α) : List α := s.newestFirst.reverse

def isEmpty (s : Series α) : Bool := s.newestFirst.isEmpty

def length (s : Series α) : Nat := s.newestFirst.length

def last? (s : Series α) : Option α := s.newestFirst.head?

def push (s : Series α) (item : α) : Series α := ⟨item :: s.newestFirst⟩

/-- Adds items, the first of them first. -/
def append (s : Series α) (items : List α) : Series α := ⟨items.reverse ++ s.newestFirst⟩

@[simp] theorem toList_empty : ({} : Series α).toList = [] := rfl

@[simp] theorem toList_push (s : Series α) (item : α) : (s.push item).toList = s.toList ++ [item] :=
  List.reverse_cons

@[simp] theorem toList_append (s : Series α) (items : List α) :
    (s.append items).toList = s.toList ++ items := by
  simp [append, toList]

theorem toList_inj {s t : Series α} : s.toList = t.toList ↔ s = t := by
  rw [toList, toList, List.reverse_inj, Series.mk.injEq]

theorem isEmpty_eq (s : Series α) : s.isEmpty = s.toList.isEmpty := by
  simp [isEmpty, toList]

theorem length_eq (s : Series α) : s.length = s.toList.length := by
  simp [length, toList]

theorem last?_eq (s : Series α) : s.last? = s.toList.getLast? := by
  simp [last?, toList]

end Series

end EventFormation
