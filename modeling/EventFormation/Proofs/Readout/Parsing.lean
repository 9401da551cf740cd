import EventFormation.Proofs.Readout.Records
import Mathlib.Algebra.Group.Nat.Defs
import Mathlib.Data.List.Basic

namespace EventFormation

section LittleEndian

theorem toLittleEndian_eq_map (count n : Nat) :
    toLittleEndian count n = (List.range count).map fun place => UInt8.ofNat (n / 256 ^ place % 256) := by
  induction count generalizing n with
  | zero => rfl
  | succ count ih =>
    rw [List.range_succ_eq_map, List.map_cons, List.map_map, toLittleEndian, ih]
    congr 1
    · simp
    · refine List.map_congr_left fun place _ => ?_
      rw [Function.comp_apply, Nat.succ_eq_add_one, Nat.pow_succ', Nat.div_div_eq_div_mul]

theorem fromLittleEndian_lt (count : Nat) (bytes : List UInt8) : fromLittleEndian count bytes < 256 ^ count := by
  induction count generalizing bytes with
  | zero => simp [fromLittleEndian]
  | succ count ih =>
    rw [Nat.pow_succ']
    cases bytes with
    | nil =>
      have some := ih []
      simp only [fromLittleEndian] at some ⊢
      omega
    | cons byte rest =>
      have low := byte.toNat_lt
      have high := ih rest
      simp only [fromLittleEndian]
      omega

theorem toLittleEndian_fromLittleEndian {count : Nat} {bytes : List UInt8} (enough : count ≤ bytes.length) :
    toLittleEndian count (fromLittleEndian count bytes) = bytes.take count := by
  induction count generalizing bytes with
  | zero => rfl
  | succ count ih =>
    cases bytes with
    | nil => simp at enough
    | cons byte rest =>
      have low : byte.toNat < 256 := byte.toNat_lt
      rw [fromLittleEndian, toLittleEndian, Nat.add_mul_mod_self_left, Nat.mod_eq_of_lt low, UInt8.ofNat_toNat,
        Nat.add_mul_div_left _ _ (by decide), Nat.div_eq_of_lt low, Nat.zero_add,
        ih (by simpa using enough), List.take_succ_cons]

end LittleEndian

namespace Hit

variable {record : List UInt8}

/-- The plane of a record is the byte behind the time, the coordinate and the weight. -/
theorem plane_of_record (whole : record.length = recordSize) :
    record[12]? = some (UInt8.ofNat (fromLittleEndian 1 (record.drop 12))) := by
  have inside : 12 < record.length := by rw [whole]; decide
  rw [List.drop_eq_getElem_cons inside, List.getElem?_eq_getElem inside]
  simp [fromLittleEndian]

theorem decode?_eq_none_iff (whole : record.length = recordSize) :
    decode? record = none ↔ record[12]? = some reservedPlane := by
  rw [plane_of_record whole, Option.some_inj, decode?, if_neg (by omega)]
  dsimp only
  by_cases reserved : UInt8.ofNat (fromLittleEndian 1 (record.drop 12)) = reservedPlane <;> simp [reserved]

/-- A hit that was read is written as its record was, but for the bytes that are not used. -/
theorem encode_of_decode? (whole : record.length = recordSize) {hit : Hit} (read : decode? record = some hit) :
    hit.encode = record.take 13 ++ [0, 0, 0] := by
  have parts : record.take 13 = record.take 8 ++ ((record.drop 8).take 2 ++ ((record.drop 10).take 2 ++
      (record.drop 12).take 1)) := by
    rw [show 13 = 8 + (2 + (2 + 1)) from rfl, List.take_add, List.take_add, List.take_add, List.drop_drop,
      List.drop_drop]
  have field (start size : Nat) (inside : start + size ≤ 16) :
      toLittleEndian size (fromLittleEndian size (record.drop start)) = (record.drop start).take size := by
    refine toLittleEndian_fromLittleEndian ?_
    rw [List.length_drop, whole, recordSize]
    omega
  have time := field 0 8 (by decide)
  have coordinate := field 8 2 (by decide)
  have weight := field 10 2 (by decide)
  have plane := field 12 1 (by decide)
  have timeLt := fromLittleEndian_lt 8 (record.drop 0)
  have coordinateLt := fromLittleEndian_lt 2 (record.drop 8)
  have weightLt := fromLittleEndian_lt 2 (record.drop 10)
  have planeLt : fromLittleEndian 1 (record.drop 12) < 256 := fromLittleEndian_lt 1 (record.drop 12)
  rw [decode?, if_neg (by omega)] at read
  dsimp only at read
  split at read
  · cases read
  cases read
  rw [toLittleEndian, toLittleEndian, Nat.mod_eq_of_lt planeLt] at plane
  rw [encode, UInt64.toNat_ofNat_of_lt' timeLt, UInt16.toNat_ofNat_of_lt' coordinateLt,
    UInt16.toNat_ofNat_of_lt' weightLt, time, coordinate, weight, parts, ← plane]
  simp

/-- The records of some bytes follow each other without gaps. A rest that is too short is none. -/
theorem recordsOf_eq_map (data : List UInt8) :
    recordsOf data = (List.range (data.length / 16)).map fun place => (data.drop (16 * place)).take 16 := by
  have cut (count : Nat) (bytes : List UInt8) : (takeRecords {} count bytes).toList =
      (List.range count).map fun place => (bytes.drop (16 * place)).take 16 := by
    induction count generalizing bytes with
    | zero => rfl
    | succ count ih =>
      rw [takeRecords, toList_takeRecords, ih, List.range_succ_eq_map, List.map_cons, List.map_map]
      simp [recordSize, Function.comp_def, List.drop_drop, Nat.mul_add, Nat.add_comm]
  exact cut _ data

theorem length_of_mem_recordsOf {data : List UInt8} (member : record ∈ recordsOf data) :
    record.length = recordSize := by
  rw [recordsOf_eq_map] at member
  obtain ⟨place, inside, rfl⟩ := List.mem_map.mp member
  rw [List.mem_range] at inside
  rw [List.length_take, List.length_drop, recordSize]
  omega

@[simp] theorem length_recordsOf (data : List UInt8) : (recordsOf data).length = data.length / 16 := by
  simp [recordsOf_eq_map]

theorem recordsOf_append {first : List UInt8} (whole : 16 ∣ first.length) (second : List UInt8) :
    recordsOf (first ++ second) = recordsOf first ++ recordsOf second := by
  obtain ⟨count, length⟩ := whole
  have both : (first ++ second).length / 16 = count + second.length / 16 := by
    rw [List.length_append, length]
    omega
  rw [recordsOf_eq_map, recordsOf_eq_map, recordsOf_eq_map, both, List.range_add, List.map_append, List.map_map, length,
    Nat.mul_div_cancel_left _ (by decide)]
  congr 1
  · refine List.map_congr_left fun place inside => ?_
    rw [List.mem_range] at inside
    have before : 16 * place ≤ first.length := by omega
    rw [List.drop_append_of_le_length before, List.take_append_of_le_length]
    rw [List.length_drop]
    omega
  · refine List.map_congr_left fun place _ => ?_
    rw [Function.comp_apply, Nat.mul_add, ← length, List.drop_append, ← List.drop_drop]
    simp

/-- What is read from whole records is written again as these records, without those of the reserved
plane. -/
theorem encodeAll_decode? {records : List (List UInt8)} (whole : ∀ record ∈ records, record.length = recordSize) :
    encodeAll (records.filterMap decode?) =
      (records.filter fun record => record[12]? != some reservedPlane).flatMap fun record =>
        record.take 13 ++ [0, 0, 0] := by
  induction records with
  | nil => rfl
  | cons record rest ih =>
    have others := ih fun other member => whole other (List.mem_cons_of_mem record member)
    have size := whole record List.mem_cons_self
    cases read : decode? record with
    | none =>
      have reserved := (decode?_eq_none_iff size).mp read
      rw [List.filterMap_cons_none read, others, List.filter_cons_of_neg (by simp [reserved])]
    | some hit =>
      have unreserved : record[12]? ≠ some reservedPlane := fun reserved => by
        rw [(decode?_eq_none_iff size).mpr reserved] at read
        cases read
      rw [List.filterMap_cons_some read, List.filter_cons_of_pos (by simpa using unreserved), List.flatMap_cons,
        ← others, ← encode_of_decode? size read]
      rfl

end Hit

/-- What two parses have counted together. -/
def ParseReport.add (first second : ParseReport) : ParseReport :=
  ⟨first.hits + second.hits, first.errors + second.errors⟩

/-- Reads one record behind what has been read so far. -/
def Hit.readRecord (parsed : List Hit × ParseReport) (record : List UInt8) : List Hit × ParseReport :=
  match decode? record with
  | some hit => (parsed.1 ++ [hit], { parsed.2 with hits := parsed.2.hits + 1 })
  | none => (parsed.1, { parsed.2 with errors := parsed.2.errors + 1 })

/-- Reads the records of a datagram one by one into an output that may hold hits already. -/
def parseInto (output : List Hit) (data : List UInt8) : List Hit × ParseReport :=
  (Hit.recordsOf data).foldl Hit.readRecord
    (output, ⟨0, if data.length % Hit.recordSize = 0 then 0 else 1⟩)

/-- Reads datagrams one after the other behind what has been read so far, and adds up their reports. -/
def parseParts : List Hit × ParseReport → List (List UInt8) → List Hit × ParseReport
  | parsed, [] => parsed
  | parsed, part :: rest =>
    let next := parseInto parsed.1 part
    parseParts (next.1, parsed.2.add next.2) rest

theorem Hit.foldl_readRecord (records : List (List UInt8)) (parsed : List Hit × ParseReport) :
    records.foldl readRecord parsed = (parsed.1 ++ records.filterMap decode?,
      ⟨parsed.2.hits + (records.filterMap decode?).length,
        parsed.2.errors + (records.length - (records.filterMap decode?).length)⟩) := by
  induction records generalizing parsed with
  | nil => simp
  | cons record rest ih =>
    have fewer := List.length_filterMap_le decode? rest
    rw [List.foldl_cons, ih, readRecord]
    cases read : decode? record with
    | none =>
      simp only [List.filterMap_cons_none read, List.length_cons, Prod.mk.injEq, ParseReport.mk.injEq, true_and]
      omega
    | some hit =>
      simp only [List.filterMap_cons_some read, List.append_assoc, List.singleton_append, List.length_cons,
        Prod.mk.injEq, ParseReport.mk.injEq, true_and]
      omega

section Parsing

variable {output : List Hit} {data : List UInt8}

/-- The hits of a datagram come behind those that are in the output. -/
theorem parseInto_eq (output : List Hit) (data : List UInt8) :
    parseInto output data = (output ++ (parseDatagram data).1, (parseDatagram data).2) := by
  rw [parseInto, Hit.foldl_readRecord, Nat.zero_add]
  rfl

theorem parseDatagram_append {first : List UInt8} (whole : 16 ∣ first.length) (second : List UInt8) :
    parseDatagram (first ++ second) = ((parseDatagram first).1 ++ (parseDatagram second).1,
      (parseDatagram first).2.add (parseDatagram second).2) := by
  have fewer := List.length_filterMap_le Hit.decode? (Hit.recordsOf first)
  have fewer' := List.length_filterMap_le Hit.decode? (Hit.recordsOf second)
  have none : first.length % Hit.recordSize = 0 := Nat.mod_eq_zero_of_dvd whole
  have rest : (first ++ second).length % Hit.recordSize = second.length % Hit.recordSize := by
    rw [List.length_append, Nat.add_mod, none, Nat.zero_add, Nat.mod_mod]
  rw [parseDatagram, parseDatagram, parseDatagram, rest, none]
  simp only [Hit.recordsOf_append whole, List.filterMap_append, List.length_append, if_true, ParseReport.add,
    Prod.mk.injEq, ParseReport.mk.injEq, true_and]
  omega

/-- Datagrams that are cut between records are read as their records are in one piece. -/
theorem parseParts_eq {parts : List (List UInt8)} (whole : ∀ part ∈ parts, 16 ∣ part.length) (last : List UInt8)
    (parsed : List Hit × ParseReport) :
    parseParts parsed (parts ++ [last]) = (parsed.1 ++ (parseDatagram (parts.flatten ++ last)).1,
      parsed.2.add (parseDatagram (parts.flatten ++ last)).2) := by
  induction parts generalizing parsed with
  | nil => rw [List.nil_append, parseParts, parseInto_eq, parseParts, List.flatten_nil, List.nil_append]
  | cons part rest ih =>
    rw [List.cons_append, parseParts, ih fun other member => whole other (List.mem_cons_of_mem part member),
      List.flatten_cons, List.append_assoc, parseDatagram_append (whole part List.mem_cons_self), parseInto_eq]
    simp only [List.append_assoc, ParseReport.add, Nat.add_assoc]

theorem hits_add_errors (data : List UInt8) :
    (parseDatagram data).2.hits + (parseDatagram data).2.errors =
      data.length / 16 + if data.length % 16 = 0 then 0 else 1 := by
  have fewer := List.length_filterMap_le Hit.decode? (Hit.recordsOf data)
  rw [Hit.length_recordsOf] at fewer
  have counts : (parseDatagram data).2.hits + (parseDatagram data).2.errors =
      ((Hit.recordsOf data).filterMap Hit.decode?).length + ((if data.length % 16 = 0 then 0 else 1) +
        ((Hit.recordsOf data).length - ((Hit.recordsOf data).filterMap Hit.decode?).length)) := rfl
  rw [counts, Hit.length_recordsOf]
  omega

/-- Written hits are read again but for those on the reserved plane, each of which is an error. -/
theorem parseDatagram_encodeAll (hits : List Hit) :
    parseDatagram (Hit.encodeAll hits) = (Hit.visible hits,
      ⟨(Hit.visible hits).length, (hits.filter fun hit => hit.plane == Hit.reservedPlane).length⟩) := by
  have total := hits_add_errors (Hit.encodeAll hits)
  have split : hits.length = (hits.filter fun hit => hit.plane == Hit.reservedPlane).length +
      (Hit.visible hits).length := List.length_eq_length_filter_add _
  have read : (parseDatagram (Hit.encodeAll hits)).1 = Hit.visible hits := Hit.decode_recordsOf hits
  have count : (parseDatagram (Hit.encodeAll hits)).2.hits = (Hit.visible hits).length := congrArg List.length read
  rw [Hit.length_encodeAll, Hit.recordSize, Nat.mul_div_cancel _ (by decide), Nat.mul_mod_left, if_pos rfl,
    count] at total
  have errors : (parseDatagram (Hit.encodeAll hits)).2.errors =
      (hits.filter fun hit => hit.plane == Hit.reservedPlane).length := by omega
  rw [← read, ← errors]
  rfl

/-- A hit is written as four numbers, least significant byte first, and three zeros. The hits that are read
from the records of some bytes come behind the output, each record is a hit or an error, a rest that is no
record is an error, and what is read is written again as the records it was read from. So bytes can be cut
between records and read piece by piece. -/
theorem records_read_and_written (hits output : List Hit) (data : List UInt8) :
    let field count n := (List.range count).map fun place => UInt8.ofNat (n / 256 ^ place % 256)
    let parsed := parseDatagram data
    (Hit.encodeAll hits = hits.flatMap fun hit => field 8 hit.time.toNat ++ field 2 hit.coordinate.toNat ++
        field 2 hit.weight.toNat ++ [hit.plane, 0, 0, 0]) ∧
      (Hit.encodeAll hits).length = 16 * hits.length ∧
      parseInto output (Hit.encodeAll hits) = (output ++ hits.filter fun hit => hit.plane != 255,
        ⟨(hits.filter fun hit => hit.plane != 255).length, (hits.filter fun hit => hit.plane == 255).length⟩) ∧
      parseInto output data = (output ++ parsed.1, parsed.2) ∧
      parsed.2.hits = parsed.1.length ∧
      parsed.2.hits + parsed.2.errors = data.length / 16 + (if data.length % 16 = 0 then 0 else 1) ∧
      Hit.encodeAll parsed.1 =
        (((List.range (data.length / 16)).map fun place => (data.drop (16 * place)).take 16).filter
          fun record => record[12]? != some 255).flatMap (fun record => record.take 13 ++ [0, 0, 0]) ∧
      (∀ first second, data = first ++ second → 16 ∣ first.length →
        parseParts (output, ⟨0, 0⟩) [first, second] = parseInto output data) ∧
      ∀ parts last, data = parts.flatten ++ last → (∀ part ∈ parts, 16 ∣ part.length) →
        parseParts (output, ⟨0, 0⟩) (parts ++ [last]) = parseInto output data := by
  intro field parsed
  have pieces (parts : List (List UInt8)) (last : List UInt8) (cut : data = parts.flatten ++ last)
      (whole : ∀ part ∈ parts, 16 ∣ part.length) :
      parseParts (output, ⟨0, 0⟩) (parts ++ [last]) = parseInto output data := by
    rw [parseParts_eq whole, ← cut, parseInto_eq]
    simp [ParseReport.add]
  refine ⟨?_, ?_, ?_, parseInto_eq output data, rfl, hits_add_errors data, ?_, ?_, pieces⟩
  · rw [Hit.encodeAll]
    congr 1
    funext hit
    simp only [Hit.encode, toLittleEndian_eq_map, field]
  · rw [Hit.length_encodeAll, Hit.recordSize, Nat.mul_comm]
  · rw [parseInto_eq, parseDatagram_encodeAll]
    rfl
  · rw [← Hit.recordsOf_eq_map]
    exact Hit.encodeAll_decode? fun record => Hit.length_of_mem_recordsOf
  · intro first second cut whole
    exact pieces [first] second (by simpa using cut) (by simpa using whole)

/-- Two records in two datagrams: a hit whose unused bytes are lost, then one on the reserved plane with a
byte behind it. -/
theorem records_read_and_written_pair :
    let first : List UInt8 := [2, 1, 0, 0, 0, 0, 0, 0, 3, 0, 4, 0, 1, 8, 8, 8]
    let second : List UInt8 := [5, 0, 0, 0, 0, 0, 0, 0, 6, 0, 7, 0, 255, 0, 0, 0, 9]
    16 ∣ first.length ∧ parseParts ([], ⟨0, 0⟩) [first, second] = parseInto [] (first ++ second) ∧
      parseInto [] (first ++ second) = ([⟨258, 1, 3, 4⟩], ⟨1, 2⟩) ∧
      Hit.encodeAll (parseInto [] (first ++ second)).1 = [2, 1, 0, 0, 0, 0, 0, 0, 3, 0, 4, 0, 1, 0, 0, 0] := by
  intro first second
  have whole : 16 ∣ first.length := by decide
  obtain ⟨_, _, _, _, _, _, _, cut, _⟩ := records_read_and_written [] [] (first ++ second)
  exact ⟨whole, cut first second rfl whole, by decide, by decide⟩

end Parsing

end EventFormation
