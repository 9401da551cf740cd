import EventFormation.Json.Skip
import EventFormation.Series

namespace EventFormation.Json

/-- A JSON value that has been read as a whole. Fields of objects stay in order, repeated ones
included. -/
inductive Content
  | null
  | boolean (value : Bool)
  | number (value : Number)
  | text (value : String)
  | list (items : List Content)
  | object (fields : List (String × Content))

def Content.found : Content → Found
  | null => .null
  | boolean value => .boolean value
  | number value => value.found
  | text value => .text value
  | list _ => .list
  | object _ => .object

namespace Reader

def anotherElement (first : Bool) : Reader Bool := do
  match ← peekToken with
  | none => failNext .unfinishedList
  | some 93 => return false
  | some byte =>
    if first then return true
    else if byte == 44 then
      skip
      match ← peekToken with
      | some 93 => failNext .trailingComma
      | some _ => return true
      | none => failNext .unfinishedValue
    else failNext .expectedListEnd

/-- Whether another field of an object follows. If so, its opening quote is next. -/
def anotherField (first : Bool) : Reader Bool := do
  match ← peekToken with
  | none => failNext .unfinishedObject
  | some 125 => return false
  | some byte =>
    if first then
      if byte == 34 then return true else failNext .keyNotText
    else if byte == 44 then
      skip
      match ← peekToken with
      | some 34 => return true
      | some 125 => failNext .trailingComma
      | some _ => failNext .keyNotText
      | none => failNext .unfinishedValue
    else failNext .expectedObjectEnd

def key : Reader String := do
  skip
  QuotedText.read

def colon : Reader Unit := do
  match ← peekToken with
  | none => failNext .unfinishedObject
  | some 58 => skip
  | some _ => failNext .expectedColon

def endList : Reader Unit := do
  match ← peekToken with
  | none => failNext .unfinishedList
  | some 93 => skip
  | some 44 =>
    skip
    match ← peekToken with
    | some 93 => failNext .trailingComma
    | _ => failNext .trailingText
  | some _ => failNext .trailingText

def endObject : Reader Unit := do
  match ← peekToken with
  | none => failNext .unfinishedObject
  | some 125 => skip
  | some 44 => failNext .trailingComma
  | some _ => failNext .trailingText

def elementsWithin {α : Type} (element : Reader α) : Nat → Bool → Series α → Reader (Series α)
  | 0, _, done => return done
  | fuel + 1, first, done => do
    if ← anotherElement first then
      elementsWithin element fuel false (done.push (← element))
    else return done

/-- Reads the elements up to the end of a list, which is left. -/
def elements {α : Type} (element : Reader α) (first : Bool) : Reader (List α) := do
  let c ← get
  return (← elementsWithin element (c.left + 1) first {}).toList

def fieldsWithin {σ : Type} (field : String → σ → Reader σ) : Nat → Bool → σ → Reader σ
  | 0, _, value => return value
  | fuel + 1, first, value => do
    if ← anotherField first then
      let name ← key
      fieldsWithin field fuel false (← field name value)
    else return value

/-- Reads fields up to the end of an object, which is left. Each field updates a value. -/
def fields {σ : Type} (field : String → σ → Reader σ) (start : σ) : Reader σ := do
  let c ← get
  fieldsWithin field (c.left + 1) true start

end Reader

/-- Containers may be nested this deep, one less. -/
def maxDepth : Nat := 128

namespace Content

/-- Reads any value, with room for `depth - 1` containers inside each other. -/
def readWithin : Nat → Reader Content
  | 0 => Reader.failNext .tooDeep
  | depth + 1 => Reader.placed do
    match ← Reader.peekToken with
    | none => Reader.failNext .unfinishedValue
    | some byte =>
      if byte == 110 then
        Reader.skip
        readWord nullTail
        return .null
      else if byte == 116 then
        Reader.skip
        readWord trueTail
        return .boolean true
      else if byte == 102 then
        Reader.skip
        readWord falseTail
        return .boolean false
      else if byte == 45 then
        Reader.skip
        return .number (← Number.read false)
      else if Number.isDigit byte then return .number (← Number.read true)
      else if byte == 34 then
        Reader.skip
        return .text (← QuotedText.read)
      else if byte == 91 then
        if depth = 0 then Reader.failNext .tooDeep
        else
          Reader.skip
          return .list (← Reader.closedBy (Reader.elements (readWithin depth) true) Reader.endList)
      else if byte == 123 then
        if depth = 0 then Reader.failNext .tooDeep
        else
          Reader.skip
          let field name (done : List (String × Content)) := do
            Reader.colon
            return (name, ← readWithin depth) :: done
          return .object (← Reader.closedBy (Reader.fields field []) Reader.endObject).reverse
      else Reader.failNext .expectedValue

def ofString? (text : String) : Except Refusal Content := do
  let (value, c) ← readWithin maxDepth (Cursor.ofString text)
  match ← Reader.peekToken c with
  | (none, _) => return value
  | (some _, c) => (Reader.failNext .trailingText c).map (·.1)

def field? (content : Content) (name : String) : Option Content :=
  match content with
  | object fields => (fields.find? (·.1 == name)).map (·.2)
  | _ => none

end Content

end EventFormation.Json
