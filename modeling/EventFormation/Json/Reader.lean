import EventFormation.Json.Content

namespace EventFormation.Json.Reader

/-- Refuses a value of another type than the expected one, which must itself be well written. -/
def wrongType {α : Type} (expected : String) : Reader α := placed do
  match ← peek with
  | some byte =>
    if byte == 110 then
      skip
      readWord nullTail
      failUnplaced (.wrongType .null expected)
    else if byte == 116 then
      skip
      readWord trueTail
      failUnplaced (.wrongType (.boolean true) expected)
    else if byte == 102 then
      skip
      readWord falseTail
      failUnplaced (.wrongType (.boolean false) expected)
    else if byte == 45 then
      skip
      failUnplaced (.wrongType (← Number.read false).found expected)
    else if Number.isDigit byte then
      failUnplaced (.wrongType (← Number.read true).found expected)
    else if byte == 34 then
      skip
      failUnplaced (.wrongType (.text (← QuotedText.read)) expected)
    else if byte == 91 then failUnplaced (.wrongType .list expected)
    else if byte == 123 then failUnplaced (.wrongType .object expected)
    else failNext .expectedValue
  | none => failNext .expectedValue

def token : Reader UInt8 := do
  match ← peekToken with
  | some byte => return byte
  | none => failNext .unfinishedValue

end EventFormation.Json.Reader

namespace EventFormation.Json

/-- A whole number type: its name and how many values it has. -/
structure Range where
  name : String
  count : Nat

namespace Range

def byte : Range := ⟨"u8", 256⟩
def short : Range := ⟨"u16", 65536⟩
def word : Range := ⟨"u64", wordCount⟩
def size : Range := ⟨"usize", wordCount⟩

def check (range : Range) : Number → Except Mistake Nat
  | .natural value =>
    if value < range.count then .ok value else .error (.wrongValue (.integer value) range.name)
  | .negative value => .error (.wrongValue (.integer value) range.name)
  | .float value => .error (.wrongType (.float value) range.name)

end Range

namespace Reader

def ofExcept {α : Type} : Except Mistake α → Reader α
  | .ok value => pure value
  | .error mistake => failUnplaced mistake

def natural (range : Range) : Reader Nat := placed do
  let byte ← token
  if byte == 45 then
    skip
    ofExcept (range.check (← Number.read false))
  else if Number.isDigit byte then ofExcept (range.check (← Number.read true))
  else wrongType range.name

def boolean : Reader Bool := placed do
  let byte ← token
  if byte == 116 then
    skip
    readWord trueTail
    return true
  else if byte == 102 then
    skip
    readWord falseTail
    return false
  else wrongType "a boolean"

def text (expected : String) : Reader String := placed do
  let byte ← token
  if byte == 34 then
    skip
    QuotedText.read
  else wrongType expected

def null : Reader Unit := placed do
  let byte ← token
  if byte == 110 then
    skip
    readWord nullTail
  else wrongType "unit"

/-- Refuses a container where no further one may be opened. -/
def checkDepth (depth : Nat) : Reader Unit :=
  if depth ≤ 1 then failNext .tooDeep else pure ()

def list {α : Type} (depth : Nat) (element : Reader α) : Reader (List α) := placed do
  let byte ← token
  if byte == 91 then
    checkDepth depth
    skip
    closedBy (elements element true) endList
  else wrongType "a sequence"

end Reader

/-- One of a set of names. -/
structure Choice (α : Type) where
  names : List (String × α)

namespace Choice

variable {α : Type}

def check (choice : Choice α) (name : String) : Except Mistake α :=
  match choice.names.find? (·.1 == name) with
  | some (_, value) => .ok value
  | none => .error (.unknownVariant name (choice.names.map (·.1)))

def expected : String := "variant identifier"

def readName (choice : Choice α) : Reader α := Reader.placed do
  Reader.ofExcept (choice.check (← Reader.text expected))

def readKey (choice : Choice α) : Reader α := do
  match ← Reader.peekToken with
  | none => Reader.failNext .unfinishedObject
  | some 34 => choice.readName
  | some 125 => Reader.failNext .expectedValue
  | some _ => Reader.failNext .keyNotText

/-- Reads a name, or an object that gives `null` to a name. -/
def read (choice : Choice α) (depth : Nat) : Reader α := do
  match ← Reader.peekToken with
  | none => Reader.failNext .unfinishedValue
  | some 34 => choice.readName
  | some 123 =>
    Reader.checkDepth depth
    Reader.skip
    let value ← choice.readKey
    Reader.colon
    Reader.null
    match ← Reader.peekToken with
    | none => Reader.failHere .unfinishedObject
    | some 125 =>
      Reader.skip
      return value
    | some _ => Reader.failHere .expectedValue
  | some _ => Reader.failNext .expectedValue

end Choice

/-- A named part of a record. Its reader gets the depth that is left. -/
structure Field (σ : Type) where
  name : String
  read : Nat → σ → Reader σ

/-- A record read from an object, or from the list of its fields in order. Fields that are not
given keep their value, unknown ones are read over. -/
structure Record (σ : Type) where
  name : String
  fields : List (Field σ)

namespace Record

variable {σ : Type}

/-- Reads one field of an object. The names read so far are kept, since none may come twice. -/
def readField (record : Record σ) (depth : Nat) (name : String) (state : List String × σ) :
    Reader (List String × σ) := do
  match record.fields.find? (·.name == name) with
  | none =>
    Reader.colon
    skipValue
    return state
  | some field =>
    if state.1.contains name then Reader.failUnplaced (.repeatedField name)
    else
      Reader.colon
      return (name :: state.1, ← field.read depth state.2)

def readObject (record : Record σ) (depth : Nat) (start : σ) : Reader σ := do
  return (← Reader.fields (record.readField depth) ([], start)).2

def readElements (depth : Nat) : List (Field σ) → Bool → σ → Reader σ
  | [], _, value => return value
  | field :: rest, first, value => do
    if ← Reader.anotherElement first then
      readElements depth rest false (← field.read depth value)
    else return value

def read (record : Record σ) (start : σ) (depth : Nat) : Reader σ := Reader.placed do
  let byte ← Reader.token
  if byte == 123 then
    Reader.checkDepth depth
    Reader.skip
    Reader.closedBy (record.readObject (depth - 1) start) Reader.endObject
  else if byte == 91 then
    Reader.checkDepth depth
    Reader.skip
    Reader.closedBy (readElements (depth - 1) record.fields true start) Reader.endList
  else Reader.wrongType ("struct " ++ record.name)

end Record

/-- Reads a text that is exactly one value. Gives the message, line and column of a refusal. A
mistake that no surrounding value has placed is at line and column zero. -/
def parse {α : Type} (reader : Nat → Reader α) (text : String) : Except (Mistake × Nat × Nat) α :=
  let whole : Reader α := do
    let value ← reader maxDepth
    match ← Reader.peekToken with
    | none => return value
    | some _ => Reader.failNext .trailingText
  match whole (Cursor.ofString text) with
  | .ok (value, _) => .ok value
  | .error refusal => .error (refusal.mistake, refusal.place.getD (0, 0))

end EventFormation.Json
