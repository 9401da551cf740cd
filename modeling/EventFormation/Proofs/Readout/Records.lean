import EventFormation.Readout.Record

namespace EventFormation

namespace Hit

/-- The hits that a reader gets to see. -/
def visible (hits : List Hit) : List Hit := hits.filter fun hit => hit.plane != reservedPlane

variable {hits : List Hit}

theorem visible_append (hits others : List Hit) : visible (hits ++ others) = visible hits ++ visible others :=
  List.filter_append ..

@[simp] theorem length_encodeAll (hits : List Hit) : (encodeAll hits).length = hits.length * recordSize := by
  induction hits with
  | nil => rfl
  | cons hit others ih =>
    rw [encodeAll, List.flatMap_cons, List.length_append, length_encode, List.length_cons, Nat.succ_mul, Nat.add_comm]
    exact congrArg (· + recordSize) ih

theorem encodeAll_append (hits others : List Hit) : encodeAll (hits ++ others) = encodeAll hits ++ encodeAll others :=
  List.flatMap_append ..

/-- A record is read as the hit that was written, unless that is on the reserved plane. -/
theorem decode?_encode (hit : Hit) : decode? hit.encode = if hit.plane != reservedPlane then some hit else none := by
  have time : (toLittleEndian 8 hit.time.toNat).length = 8 := length_toLittleEndian ..
  have coordinate : (toLittleEndian 2 hit.coordinate.toNat).length = 2 := length_toLittleEndian ..
  have weight : (toLittleEndian 2 hit.weight.toNat).length = 2 := length_toLittleEndian ..
  have atCoordinate : hit.encode.drop 8 = toLittleEndian 2 hit.coordinate.toNat ++
      (toLittleEndian 2 hit.weight.toNat ++ [hit.plane, 0, 0, 0]) := by
    rw [encode, List.append_assoc, List.append_assoc]
    exact List.drop_left' time
  have atWeight : hit.encode.drop 10 = toLittleEndian 2 hit.weight.toNat ++ [hit.plane, 0, 0, 0] := by
    rw [show 10 = 8 + 2 from rfl, ← List.drop_drop, atCoordinate]
    exact List.drop_left' coordinate
  have atPlane : hit.encode.drop 12 = [hit.plane, 0, 0, 0] := by
    rw [show 12 = 10 + 2 from rfl, ← List.drop_drop, atWeight]
    exact List.drop_left' weight
  have timeField : fromLittleEndian 8 hit.encode = hit.time.toNat := by
    rw [encode, List.append_assoc, List.append_assoc, fromLittleEndian_toLittleEndian]
    exact Nat.mod_eq_of_lt hit.time.toNat_lt
  have coordinateField : fromLittleEndian 2 (hit.encode.drop 8) = hit.coordinate.toNat := by
    rw [atCoordinate, fromLittleEndian_toLittleEndian]
    exact Nat.mod_eq_of_lt hit.coordinate.toNat_lt
  have weightField : fromLittleEndian 2 (hit.encode.drop 10) = hit.weight.toNat := by
    rw [atWeight, fromLittleEndian_toLittleEndian]
    exact Nat.mod_eq_of_lt hit.weight.toNat_lt
  have planeField : fromLittleEndian 1 (hit.encode.drop 12) = hit.plane.toNat := by
    rw [atPlane]
    simp [fromLittleEndian]
  have whole : ¬ hit.encode.length < recordSize := by simp
  simp only [decode?, whole, if_false, List.drop_zero, timeField, coordinateField, weightField, planeField,
    UInt64.ofNat_toNat, UInt16.ofNat_toNat, UInt8.ofNat_toNat]
  cases reserved : hit.plane == reservedPlane <;> simp [bne, reserved]

theorem takeRecords_encodeAll (hits : List Hit) (rest : List UInt8) :
    (takeRecords {} hits.length (encodeAll hits ++ rest)).toList = hits.map encode := by
  induction hits with
  | nil => rfl
  | cons hit others ih =>
    have split : encodeAll (hit :: others) ++ rest = hit.encode ++ (encodeAll others ++ rest) := by
      simp [encodeAll]
    rw [List.length_cons, takeRecords, toList_takeRecords, split, List.take_left' hit.length_encode,
      List.drop_left' hit.length_encode, ih]
    rfl

theorem recordsOf_encodeAll (hits : List Hit) : recordsOf (encodeAll hits) = hits.map encode := by
  have records := takeRecords_encodeAll hits []
  rw [List.append_nil] at records
  rw [recordsOf, recordsIn, length_encodeAll, Nat.mul_div_cancel _ (by decide), records]

/-- Written hits are read again, in their order. -/
theorem decode_recordsOf (hits : List Hit) : (recordsOf (encodeAll hits)).filterMap decode? = visible hits := by
  have each : decode? ∘ encode = Option.guard fun hit => hit.plane != reservedPlane := funext decode?_encode
  rw [recordsOf_encodeAll, List.filterMap_map, each, List.filterMap_eq_filter, visible]

end Hit

end EventFormation
