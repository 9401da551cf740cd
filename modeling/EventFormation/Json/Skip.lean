import EventFormation.Json.Number
import EventFormation.Json.QuotedText

namespace EventFormation.Json

def readWord : List UInt8 → Reader Unit
  | [] => return
  | expected :: letters => do
    match ← Reader.next with
    | none => Reader.failHere .unfinishedValue
    | some byte =>
      if byte == expected then readWord letters else Reader.failHere .expectedWord

def nullTail : List UInt8 := [117, 108, 108]

def trueTail : List UInt8 := [114, 117, 101]

def falseTail : List UInt8 := [97, 108, 115, 101]

/-- A list or an object whose end is still to come. -/
inductive Container
  | list
  | object
  deriving Repr, DecidableEq

def Container.unfinished : Container → Mistake
  | list => .unfinishedList
  | object => .unfinishedObject

def Container.expectedEnd : Container → Mistake
  | list => .expectedListEnd
  | object => .expectedObjectEnd

def Container.close : Container → UInt8
  | list => 93
  | object => 125

namespace Skip

def key : Reader Unit := do
  match ← Reader.peekToken with
  | none => Reader.failNext .unfinishedObject
  | some 34 => Reader.skip
  | some _ => Reader.failNext .keyNotText
  QuotedText.skip
  match ← Reader.peekToken with
  | none => Reader.failNext .unfinishedObject
  | some 58 => Reader.skip
  | some _ => Reader.failNext .expectedColon

/-- What is expected next within open containers: a value, or the end of the innermost
container, before which a comma may stand only after an element. -/
inductive Expected
  | value
  | rest (afterElement : Bool)

/-- Reads on until every open container is closed. -/
def within : Nat → Expected → List Container → Reader Unit
  | 0, _, _ => return
  | fuel + 1, .value, opened => do
    match ← Reader.peekToken with
    | none => Reader.failNext .unfinishedValue
    | some byte =>
      if byte == 91 then
        Reader.skip
        within fuel (.rest false) (.list :: opened)
      else if byte == 123 then
        Reader.skip
        within fuel (.rest false) (.object :: opened)
      else
        if byte == 110 then
          Reader.skip
          readWord nullTail
        else if byte == 116 then
          Reader.skip
          readWord trueTail
        else if byte == 102 then
          Reader.skip
          readWord falseTail
        else if byte == 45 then
          Reader.skip
          Number.skip
        else if Number.isDigit byte then Number.skip
        else if byte == 34 then
          Reader.skip
          QuotedText.skip
        else Reader.failNext .expectedValue
        within fuel (.rest true) opened
  | _ + 1, .rest _, [] => return
  | fuel + 1, .rest afterElement, container :: opened => do
    match ← Reader.peekToken with
    | none => Reader.failNext container.unfinished
    | some byte =>
      if byte == container.close then
        Reader.skip
        within fuel (.rest true) opened
      else if afterElement then
        if byte == 44 then
          Reader.skip
          if container == .object then key
          within fuel .value (container :: opened)
        else Reader.failNext container.expectedEnd
      else
        if container == .object then key
        within fuel .value (container :: opened)

end Skip

def skipValue : Reader Unit := do
  let c ← get
  Skip.within (2 * c.left + 2) .value []

end EventFormation.Json
