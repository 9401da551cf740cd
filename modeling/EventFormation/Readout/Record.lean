import EventFormation.Hit
import EventFormation.Series

namespace EventFormation

/-- The number that the first `count` bytes give, least significant byte first. -/
def fromLittleEndian : Nat → List UInt8 → Nat
  | 0, _ | _, [] => 0
  | count + 1, byte :: rest => byte.toNat + 256 * fromLittleEndian count rest

def toLittleEndian : Nat → Nat → List UInt8
  | 0, _ => []
  | count + 1, n => UInt8.ofNat (n % 256) :: toLittleEndian count (n / 256)

theorem length_toLittleEndian (count n : Nat) : (toLittleEndian count n).length = count := by
  induction count generalizing n with
  | zero => rfl
  | succ count ih => simp [toLittleEndian, ih]

theorem fromLittleEndian_toLittleEndian (count n : Nat) (rest : List UInt8) :
    fromLittleEndian count (toLittleEndian count n ++ rest) = n % Nat.pow 256 count := by
  induction count generalizing n with
  | zero => simp [fromLittleEndian, Nat.mod_one]
  | succ count ih =>
    have low : (UInt8.ofNat (n % 256)).toNat = n % 256 :=
      UInt8.toNat_ofNat_of_lt' (Nat.mod_lt n (by decide))
    have next : Nat.pow 256 (count + 1) = 256 * Nat.pow 256 count := Nat.mul_comm _ _
    rw [toLittleEndian, List.cons_append, fromLittleEndian, low, ih, next, Nat.mod_mul]

namespace Hit

/-- Bytes of an encoded hit: time, coordinate, weight, plane and three that are not used. -/
def recordSize : Nat := 16

def encode (hit : Hit) : List UInt8 :=
  toLittleEndian 8 hit.time.toNat ++ toLittleEndian 2 hit.coordinate.toNat ++
    toLittleEndian 2 hit.weight.toNat ++ [hit.plane, 0, 0, 0]

@[simp] theorem length_encode (hit : Hit) : hit.encode.length = recordSize := by
  simp [encode, length_toLittleEndian, recordSize]

def encodeAll (hits : List Hit) : List UInt8 := hits.flatMap encode

/-- The hit at the start of some bytes. None if they are too few, or if its plane is the reserved
one. -/
def decode? (bytes : List UInt8) : Option Hit :=
  if bytes.length < recordSize then none
  else
    let field start size := fromLittleEndian size (bytes.drop start)
    let plane := UInt8.ofNat (field 12 1)
    if plane == reservedPlane then none
    else some { time := .ofNat (field 0 8), plane
                coordinate := .ofNat (field 8 2), weight := .ofNat (field 10 2) }

def recordsIn (bytes : Nat) : Nat := bytes / recordSize

def takeRecords (taken : Series (List UInt8)) : Nat → List UInt8 → Series (List UInt8)
  | 0, _ => taken
  | count + 1, bytes =>
    takeRecords (taken.push (bytes.take recordSize)) count (bytes.drop recordSize)

theorem toList_takeRecords (taken : Series (List UInt8)) (count : Nat) (bytes : List UInt8) :
    (takeRecords taken count bytes).toList = taken.toList ++ (takeRecords {} count bytes).toList := by
  induction count generalizing taken bytes with
  | zero => simp [takeRecords]
  | succ count ih =>
    rw [takeRecords, takeRecords, ih (taken.push _), ih (({} : Series (List UInt8)).push _)]
    simp

def recordsOf (bytes : List UInt8) : List (List UInt8) :=
  (takeRecords {} (recordsIn bytes.length) bytes).toList

end Hit

structure ParseReport where
  hits : Nat
  /-- Records that are no hit, and a rest that is no record. -/
  errors : Nat
  deriving Repr, DecidableEq

/-- The hits of a datagram. Anything else in it is counted and left out. -/
def parseDatagram (data : List UInt8) : List Hit × ParseReport :=
  let records := Hit.recordsOf data
  let hits := records.filterMap Hit.decode?
  let rest := if data.length % Hit.recordSize = 0 then 0 else 1
  (hits, { hits := hits.length, errors := rest + (records.length - hits.length) })

end EventFormation
