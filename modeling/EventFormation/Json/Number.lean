import EventFormation.Fault
import EventFormation.Json.Cursor

namespace EventFormation.Json

/-- A number as it is written: a word, a negative whole number, or anything else. -/
inductive Number
  | natural (value : Nat)
  | negative (value : Int)
  | float (value : Float)
  deriving Repr

def Number.found : Number → Found
  | natural value => .integer value
  | negative value => .integer value
  | float value => .float value

namespace Number

def isDigit (byte : UInt8) : Bool := 48 ≤ byte && byte ≤ 57

def digit (byte : UInt8) : Nat := byte.toNat - 48

/-- Adds digits to a significand while it stays a word. Returns it with the number of digits
that no longer fit. -/
def absorb : Nat → List UInt8 → Nat × Nat
  | significand, [] => (significand, 0)
  | significand, byte :: rest =>
    let wider := significand * 10 + digit byte
    if wider < wordCount then absorb wider rest else (significand, rest.length + 1)

def powerOfTen (exponent : Nat) : Float := Float.ofScientific 1 false exponent

/-- Divides by 10 ^ 308 until the exponent can be handled in one division. -/
def scaleDown : Nat → Float → Nat → Float
  | 0, value, _ => value
  | fuel + 1, value, exponent =>
    if exponent ≤ 308 then value / powerOfTen exponent
    else if value == 0 then value
    else scaleDown fuel (value / powerOfTen 308) (exponent - 308)

/-- The double for `significand * 10 ^ exponent`, rounded after each step of floating-point
arithmetic. None if it is too large. -/
def scaled? (significand : Nat) (exponent : Int) : Option Float :=
  let value := significand.toUInt64.toFloat
  if exponent < 0 then some (scaleDown 8 value exponent.natAbs)
  else if exponent ≤ 308 then
    let value := value * powerOfTen exponent.natAbs
    if value.isInf then none else some value
  else if value == 0 then some value
  else none

def signed (positive : Bool) (value : Float) : Float := if positive then value else -value

def readDigits : Reader (List UInt8) := fun c =>
  let digits := c.rest.takeWhile isDigit
  .ok (digits, c.advanceBy digits.length)

def assemble (positive : Bool) (significand : Nat) (exponent : Int) : Reader Number := do
  match scaled? significand exponent with
  | some value => return .float (signed positive value)
  | none => Reader.failHere .numberTooLarge

def maxExponent : Nat := 2147483647

/-- Adds digits to an exponent. Returns instead, once it is too large, how many digits follow. -/
def absorbExponent : Nat → List UInt8 → Except Nat Nat
  | exponent, [] => .ok exponent
  | exponent, byte :: rest =>
    let wider := exponent * 10 + digit byte
    if wider ≤ maxExponent then absorbExponent wider rest else .error rest.length

def readExponent (positive : Bool) (significand : Nat) (start : Int) : Reader Number := do
  Reader.skip
  let rising ← match ← Reader.peek with
    | some 43 => do Reader.skip; pure true
    | some 45 => do Reader.skip; pure false
    | _ => pure true
  match ← Reader.next with
  | none => Reader.failHere .unfinishedValue
  | some byte =>
    if !isDigit byte then Reader.failHere .badNumber
    else
      let digits ← readDigits
      match absorbExponent (digit byte) digits with
      | .ok exponent =>
        assemble positive significand (if rising then start + exponent else start - exponent)
      | .error following =>
        if significand != 0 && rising then Reader.failBefore following .numberTooLarge
        else return .float (signed positive 0)

def readFraction (positive : Bool) (significand : Nat) (start : Int) : Reader Number := do
  Reader.skip
  let digits ← readDigits
  if digits.isEmpty then
    match ← Reader.peek with
    | some _ => Reader.failNext .badNumber
    | none => Reader.failNext .unfinishedValue
  else
    let (wider, unread) := absorb significand digits
    let exponent := start - (digits.length - unread : Nat)
    match ← Reader.peek with
    | some 101 | some 69 => readExponent positive wider exponent
    | _ => assemble positive wider exponent

def readTail (positive : Bool) (significand : Nat) (dropped : Nat) : Reader Number := do
  match ← Reader.peek with
  | some 46 => readFraction positive significand dropped
  | some 101 | some 69 => readExponent positive significand dropped
  | _ =>
    if dropped > 0 then assemble positive significand dropped
    else if positive then return .natural significand
    else if 0 < significand && significand ≤ 0x8000000000000000 then return .negative (-(significand : Int))
    else return .float (-significand.toUInt64.toFloat)

/-- Reads a number after its sign. Only a lone zero may start with zero. -/
def read (positive : Bool) : Reader Number := do
  match ← Reader.next with
  | none => Reader.failHere .unfinishedValue
  | some byte =>
    if byte == 48 then
      match ← Reader.peek with
      | some following => if isDigit following then Reader.failNext .badNumber else readTail positive 0 0
      | none => readTail positive 0 0
    else if isDigit byte then
      let (significand, dropped) := absorb (digit byte) (← readDigits)
      readTail positive significand dropped
    else Reader.failHere .badNumber

/-- Reads over a number after its sign, however large it is. -/
def skip : Reader Unit := do
  match ← Reader.next with
  | some 48 =>
    match ← Reader.peek with
    | some following => if isDigit following then Reader.failNext .badNumber else pure ()
    | none => pure ()
  | some byte => if isDigit byte then discard readDigits else Reader.failHere .badNumber
  | none => Reader.failHere .badNumber
  match ← Reader.peek with
  | some 46 =>
    Reader.skip
    if (← readDigits).isEmpty then Reader.failNext .badNumber
    match ← Reader.peek with
    | some 101 | some 69 => skipExponent
    | _ => pure ()
  | some 101 | some 69 => skipExponent
  | _ => pure ()
where
  skipExponent : Reader Unit := do
    Reader.skip
    match ← Reader.peek with
    | some 43 | some 45 => Reader.skip
    | _ => pure ()
    match ← Reader.next with
    | some byte => if isDigit byte then discard readDigits else Reader.failHere .badNumber
    | none => Reader.failHere .badNumber

end Number

end EventFormation.Json
