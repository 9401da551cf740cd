import EventFormation.Json.Mistake

namespace EventFormation.Json

/-- A place in a UTF-8 text: the bytes still to be read and their number, the line, and the number
of bytes read of that line. -/
structure Cursor where
  rest : List UInt8
  left : Nat
  line : Nat := 1
  column : Nat := 0
  left_eq : left = rest.length
  deriving Repr

namespace Cursor

def ofString (text : String) : Cursor :=
  let bytes := text.toUTF8.toList
  { rest := bytes, left := bytes.length, left_eq := rfl }

def advance (c : Cursor) : Cursor :=
  match given : c.rest with
  | [] => c
  | byte :: rest =>
    have left_eq : c.left - 1 = rest.length := by simp [c.left_eq, given]
    if byte == 10 then { rest, left := c.left - 1, line := c.line + 1, column := 0, left_eq }
    else { rest, left := c.left - 1, line := c.line, column := c.column + 1, left_eq }

def advanceBy (c : Cursor) (count : Nat) : Cursor :=
  { c with
    rest := c.rest.drop count
    left := c.left - count
    column := c.column + count
    left_eq := by simp [c.left_eq] }

def isBlank (byte : UInt8) : Bool := byte == 32 || byte == 10 || byte == 9 || byte == 13

def skipBlanksWithin : Nat → Cursor → Cursor
  | 0, c => c
  | fuel + 1, c =>
    match c.rest with
    | byte :: _ => if isBlank byte then skipBlanksWithin fuel c.advance else c
    | [] => c

def skipBlanks (c : Cursor) : Cursor := skipBlanksWithin c.left c

def place (c : Cursor) : Nat × Nat := (c.line, c.column)

end Cursor

/-- A refused text. A mistake in what a value says is placed by the reader of the value around
it, so its own cursor is kept until then. -/
structure Refusal where
  mistake : Mistake
  place : Option (Nat × Nat)
  cursor : Cursor

/-- Reads a value from the front of a text. -/
abbrev Reader (α : Type) := StateT Cursor (Except Refusal) α

namespace Reader

/-- Refuses at the last byte read. -/
def failHere {α : Type} (mistake : Mistake) : Reader α := fun c =>
  .error ⟨mistake, some c.place, c⟩

/-- Refuses `count` bytes before the last byte read, in the same line. -/
def failBefore {α : Type} (count : Nat) (mistake : Mistake) : Reader α := fun c =>
  .error ⟨mistake, some (c.line, c.column - count), c⟩

def failNext {α : Type} (mistake : Mistake) : Reader α := fun c =>
  .error ⟨mistake, some c.advance.place, c⟩

/-- Refuses what a value says. -/
def failUnplaced {α : Type} (mistake : Mistake) : Reader α := fun c => .error ⟨mistake, none, c⟩

def peek : Reader (Option UInt8) := fun c => .ok (c.rest.head?, c)

def skip : Reader Unit := fun c => .ok ((), c.advance)

def next : Reader (Option UInt8) := fun c => .ok (c.rest.head?, c.advance)

def peekToken : Reader (Option UInt8) := fun c =>
  let c := c.skipBlanks
  .ok (c.rest.head?, c)

/-- Gives a place to a mistake that has none: the end of what was read. -/
def placed {α : Type} (reader : Reader α) : Reader α := fun c =>
  match reader c with
  | .ok result => .ok result
  | .error refusal =>
    .error { refusal with place := some (refusal.place.getD refusal.cursor.place) }

/-- Runs `close` after `reader` in any case. A refusal by `reader` comes first, but what `close`
has read counts for its place. -/
def closedBy {α : Type} (reader : Reader α) (close : Reader Unit) : Reader α := fun c =>
  match reader c with
  | .ok (value, c) =>
    match close c with
    | .ok (_, c) => .ok (value, c)
    | .error refusal => .error refusal
  | .error refusal =>
    match close refusal.cursor with
    | .ok (_, c) => .error { refusal with cursor := c }
    | .error failed => .error { refusal with cursor := failed.cursor }

end Reader

end EventFormation.Json
