import EventFormation.Series

namespace EventFormation.Text

def ofDigits? (digits : List Char) : Option Nat :=
  if digits.isEmpty || !digits.all Char.isDigit then none
  else some (digits.foldl (fun n c => n * 10 + (c.toNat - 48)) 0)

/-- A whole number below a bound. It may have a plus sign. -/
def unsigned? (bound : Nat) (text : String) : Option Nat :=
  let number := match text.toList with
    | '+' :: digits => ofDigits? digits
    | digits => ofDigits? digits
  number.filter (· < bound)

/-- A whole number below a bound. It may have a sign, but nothing below zero is accepted. -/
def nonNegative? (bound : Nat) (text : String) : Option Nat :=
  match text.toList with
  | '-' :: digits => (ofDigits? digits).filter (· == 0)
  | _ => unsigned? bound text

/-- A number in hexadecimal, with leading zeros up to `width` digits. -/
def hex (width n : Nat) : String :=
  let digits := Nat.toDigits 16 n
  String.ofList (List.replicate (width - digits.length) '0' ++ digits)

def hexDigit? (c : Char) : Option Nat :=
  if '0' ≤ c ∧ c ≤ '9' then some (c.toNat - 48)
  else if 'a' ≤ c ∧ c ≤ 'f' then some (c.toNat - 87)
  else if 'A' ≤ c ∧ c ≤ 'F' then some (c.toNat - 55)
  else none

def ofHex? (digits : List Char) : Option Nat :=
  digits.foldlM (fun n c => return n * 16 + (← hexDigit? c)) 0

def hexOfBytes (bytes : List UInt8) : String :=
  bytes.foldl (fun text byte => text ++ hex 2 byte.toNat) ""

def bytesOfDigits? (done : Series UInt8) : List Char → Option (Series UInt8)
  | [] => some done
  | [_] => none
  | high :: low :: rest => do
    bytesOfDigits? (done.push (UInt8.ofNat (← ofHex? [high, low]))) rest

def bytesOfHex? (text : String) : Option (List UInt8) :=
  (bytesOfDigits? {} text.toList).map Series.toList

/-- A double by its bits. All that are not a number are written alike. -/
def floatBits (x : Float) : String :=
  if x.isNaN then "NaN" else "0x" ++ hex 16 x.toBits.toNat

/-- Reads a double from its bits, or from a name for what is not finite. -/
def floatOfBits? (text : String) : Option Float :=
  match text with
  | "NaN" => some (0.0 / 0.0)
  | "inf" => some (1.0 / 0.0)
  | "-inf" => some (-1.0 / 0.0)
  | _ =>
    match text.toList with
    | '0' :: 'x' :: digit :: rest => do return Float.ofBits (UInt64.ofNat (← ofHex? (digit :: rest)))
    | _ => none

end EventFormation.Text
