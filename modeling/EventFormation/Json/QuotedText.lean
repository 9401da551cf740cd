import EventFormation.Json.Cursor
import EventFormation.Text.Number

namespace EventFormation.Json.QuotedText

def hexDigit? (byte : UInt8) : Option Nat := Text.hexDigit? (Char.ofUInt8 byte)

def readHex : Reader Nat := fun c =>
  match c.rest with
  | a :: b :: d :: e :: _ =>
    let c := ((c.advance).advance).advance.advance
    match hexDigit? a, hexDigit? b, hexDigit? d, hexDigit? e with
    | some a, some b, some d, some e => .ok (((a * 16 + b) * 16 + d) * 16 + e, c)
    | _, _, _, _ => Reader.failHere .badEscape c
  | rest => Reader.failHere .unfinishedText (rest.foldl (fun c _ => c.advance) c)

def simpleEscape? (byte : UInt8) : Option UInt8 :=
  if byte == 34 then some 34
  else if byte == 92 then some 92
  else if byte == 47 then some 47
  else if byte == 98 then some 8
  else if byte == 102 then some 12
  else if byte == 110 then some 10
  else if byte == 114 then some 13
  else if byte == 116 then some 9
  else none

def encodeChar (code : Nat) : List UInt8 := (String.singleton (Char.ofNat code)).toUTF8.toList

def expectByte (byte : UInt8) : Reader Unit := do
  match ← Reader.peek with
  | none => Reader.failHere .unfinishedText
  | some found =>
    Reader.skip
    if found != byte then Reader.failHere .unpairedSurrogate

/-- Reads the digits of a Unicode escape. A leading surrogate must be followed by the escape of
a trailing one. -/
def readUnicode : Reader (List UInt8) := do
  let code ← readHex
  if 0xDC00 ≤ code && code ≤ 0xDFFF then Reader.failHere .loneSurrogate
  else if code < 0xD800 || 0xDBFF < code then return encodeChar code
  else
    expectByte 92
    expectByte 117
    let trailing ← readHex
    if trailing < 0xDC00 || 0xDFFF < trailing then Reader.failHere .loneSurrogate
    else return encodeChar ((code - 0xD800) * 0x400 + (trailing - 0xDC00) + 0x10000)

def readEscape : Reader (List UInt8) := do
  match ← Reader.next with
  | none => Reader.failHere .unfinishedText
  | some 117 => readUnicode
  | some byte =>
    match simpleEscape? byte with
    | some meant => return [meant]
    | none => Reader.failHere .badEscape

def readWithin : Nat → List UInt8 → Reader (List UInt8)
  | 0, _ => Reader.failHere .unfinishedText
  | fuel + 1, done => do
    match ← Reader.next with
    | none => Reader.failHere .unfinishedText
    | some byte =>
      if byte == 34 then return done.reverse
      else if byte == 92 then readWithin fuel ((← readEscape).reverse ++ done)
      else if byte < 32 then Reader.failHere .controlCharacter
      else readWithin fuel (byte :: done)

def read : Reader String := do
  let c ← get
  let bytes ← readWithin (c.left + 1) []
  return (String.fromUTF8? ⟨bytes.toArray⟩).getD ""

/-- Reads over an escape. Surrogates need not be paired. -/
def skipEscape : Reader Unit := do
  match ← Reader.next with
  | none => Reader.failHere .unfinishedText
  | some 117 => discard readHex
  | some byte => if (simpleEscape? byte).isNone then Reader.failHere .badEscape

def skipWithin : Nat → Reader Unit
  | 0 => Reader.failHere .unfinishedText
  | fuel + 1 => do
    match ← Reader.peek with
    | none => Reader.failHere .unfinishedText
    | some byte =>
      if byte == 34 then Reader.skip
      else if byte == 92 then
        Reader.skip
        skipEscape
        skipWithin fuel
      else if byte < 32 then Reader.failHere .controlCharacter
      else
        Reader.skip
        skipWithin fuel

def skip : Reader Unit := do
  let c ← get
  skipWithin (c.left + 1)

end EventFormation.Json.QuotedText
