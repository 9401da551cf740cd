namespace EventFormation.Text

/-- Lowest and highest byte after the first one of a character. Some first bytes narrow the second
one down, so that no character has two forms and none is a surrogate. -/
def followers (first : UInt8) : Option (List (UInt8 × UInt8)) :=
  let any : UInt8 × UInt8 := (0x80, 0xbf)
  if first < 0x80 then some []
  else if first < 0xc2 then none
  else if first < 0xe0 then some [any]
  else if first == 0xe0 then some [(0xa0, 0xbf), any]
  else if first == 0xed then some [(0x80, 0x9f), any]
  else if first < 0xf0 then some [any, any]
  else if first == 0xf0 then some [(0x90, 0xbf), any, any]
  else if first < 0xf4 then some [any, any, any]
  else if first == 0xf4 then some [(0x80, 0x8f), any, any]
  else none

def within : List (UInt8 × UInt8) → List UInt8 → List UInt8
  | (low, high) :: bounds, byte :: rest =>
    if low ≤ byte && byte ≤ high then byte :: within bounds rest else []
  | _, _ => []

/-- The bits of a first byte that belong to its character, with so many bytes to follow. -/
def firstBits (first : UInt8) : Nat → Nat
  | 0 => first.toNat
  | 1 => first.toNat % 0x20
  | 2 => first.toNat % 0x10
  | _ => first.toNat % 0x08

/-- The character at the front of a text, and the number of bytes after its first one that were
read for it. What cannot be the start of a character is replaced. -/
def decodeChar (first : UInt8) (rest : List UInt8) : Char × Nat :=
  match followers first with
  | none => ('\ufffd', 0)
  | some bounds =>
    let tail := within bounds rest
    if tail.length < bounds.length then ('\ufffd', tail.length)
    else
      (Char.ofNat (tail.foldl (fun bits byte => bits * 0x40 + byte.toNat % 0x40)
        (firstBits first bounds.length)), tail.length)

def decodeChars (done : String) : Nat → List UInt8 → String
  | 0, _ | _, [] => done
  | fuel + 1, first :: rest =>
    let (c, read) := decodeChar first rest
    decodeChars (done.push c) fuel (rest.drop read)

/-- The text that bytes write in UTF-8, where every longest start of a character that is not
completed gives a replacement character. -/
def ofUtf8 (bytes : List UInt8) : String := decodeChars "" bytes.length bytes

end EventFormation.Text
