import EventFormation.Proofs.Dump.Writing
import Mathlib.Data.List.Nodup
import Mathlib.Data.List.Perm.Subperm

namespace EventFormation

namespace DumpChunk

/-- Reads the chunks of a dump from a number on, up to the first gap. -/
def readFrom (s : FileStore) (stem : String) (chunk : Nat) : Except IoError (List Hit) :=
  ((pathsFrom s stem s.nodes.length chunk).mapM (load s)).map fun chunks => chunks.flatMap hits

/-- What a reader makes of the bytes of a chunk. -/
def checked (path : String) (bytes : List UInt8) : Except IoError DumpChunk :=
  if bytes.take headerSize ≠ header then .error (.format (.notDump path))
  else if (bytes.drop headerSize).length % Hit.recordSize ≠ 0 then .error (.format (.truncatedRecord path))
  else .ok { path, body := bytes.drop headerSize }

variable {s q : FileStore} {stem : String} {chunk count fuel room : Nat} {bytes : List UInt8} {given : List Hit}

theorem isFile_pathOf : s.isFile (pathOf stem chunk) = (content? s stem chunk).isSome := by
  rw [FileStore.isFile_eq, content?, Option.isSome_map]

theorem content?_eq_none (missing : s.isFile (pathOf stem chunk) = false) : content? s stem chunk = none := by
  rw [isFile_pathOf] at missing
  exact Option.isNone_iff_eq_none.mp (Option.isSome_eq_false_iff.mp missing)

theorem map_pathOf (there : content? s stem chunk = some bytes) : s.map (pathOf stem chunk) = .ok bytes := by
  obtain ⟨number, file, rfl⟩ := Option.map_eq_some_iff.mp there
  exact FileStore.map_eq_of_number? file

theorem load_of_map {path : String} (mapped : s.map path = .ok bytes) : load s path = checked path bytes := by
  unfold load
  rw [mapped]
  rfl

theorem load_pathOf (there : content? s stem chunk = some bytes) :
    load s (pathOf stem chunk) = checked (pathOf stem chunk) bytes :=
  load_of_map (map_pathOf there)

/-- Any whole records can stand behind the header. -/
theorem checked_append (path : String) {body : List UInt8} (whole : Hit.recordSize ∣ body.length) :
    checked path (header ++ body) = .ok { path, body } := by
  have start : (header ++ body).take headerSize = header := List.take_left' length_header
  have rest : (header ++ body).drop headerSize = body := List.drop_left' length_header
  rw [checked, start, rest, Nat.mod_eq_zero_of_dvd whole, if_neg (fun other => other rfl),
    if_neg (fun other => other rfl)]

theorem checked_bytesOf (path : String) (hits : List Hit) :
    checked path (bytesOf hits) = .ok { path, body := Hit.encodeAll hits } :=
  checked_append path (by rw [Hit.length_encodeAll]; exact Nat.dvd_mul_left _ _)

theorem isFile_of_lt_length {i : Nat} (inside : i < (pathsFrom s stem fuel chunk).length) :
    s.isFile (pathOf stem (chunk + i)) = true := by
  induction fuel generalizing chunk i with
  | zero => cases inside
  | succ fuel ih =>
    unfold pathsFrom at inside
    dsimp only at inside
    split at inside
    · rename_i there
      cases i with
      | zero => exact there
      | succ i =>
        rw [Nat.add_comm i, ← Nat.add_assoc]
        exact ih (Nat.lt_of_succ_lt_succ inside)
    · cases inside

/-- The files of a dump all have names of their own, so that there are enough nodes for them. -/
theorem length_pathsFrom_le (s : FileStore) (stem : String) (fuel chunk : Nat) :
    (pathsFrom s stem fuel chunk).length ≤ s.nodes.length := by
  obtain ⟨naming⟩ := exists_naming stem
  obtain ⟨count, length⟩ : ∃ count, count = (pathsFrom s stem fuel chunk).length := ⟨_, rfl⟩
  have there (i : Nat) (inside : i < count) : ∃ folder number, naming.folder s = .ok folder ∧
      s.node? (folder ++ [naming.name (chunk + i)]) = some (.file number) := by
    have file := isFile_of_lt_length (length ▸ inside)
    rw [FileStore.isFile_eq] at file
    obtain ⟨number, file⟩ := Option.isSome_iff_exists.mp file
    obtain ⟨_, folder, entered, node⟩ := naming.number?_eq_some_iff.mp file
    exact ⟨folder, number, entered, node⟩
  rw [← length]
  rcases Nat.eq_zero_or_pos count with none | some
  · exact none ▸ Nat.zero_le _
  obtain ⟨folder, _, entered, _⟩ := there 0 some
  have names : (List.range count).map (fun i => folder ++ [naming.name (chunk + i)]) ⊆ s.nodes.map (·.1) := by
    intro path member
    obtain ⟨i, inside, rfl⟩ := List.mem_map.mp member
    obtain ⟨folder', number, entered', node⟩ := there i (List.mem_range.mp inside)
    obtain rfl : folder = folder' := Except.ok.inj (entered.symm.trans entered')
    exact List.mem_map_of_mem (FileStore.mem_nodes_of_file node)
  have distinct : ((List.range count).map fun i => folder ++ [naming.name (chunk + i)]).Nodup := by
    refine List.Nodup.map (fun i j same => ?_) List.nodup_range
    have name := naming.distinct _ _ (List.cons.inj (List.append_cancel_left same)).1
    exact Nat.add_left_cancel name
  have few := (distinct.subperm names).length_le
  rwa [List.length_map, List.length_map, List.length_range] at few

theorem pathsFrom_succ (enough : (pathsFrom s stem (fuel + 1) chunk).length ≤ fuel) :
    pathsFrom s stem (fuel + 1) chunk = pathsFrom s stem fuel chunk := by
  induction fuel generalizing chunk with
  | zero => exact List.eq_nil_of_length_eq_zero (Nat.le_zero.mp enough)
  | succ fuel ih =>
    unfold pathsFrom at enough ⊢
    dsimp only at enough ⊢
    split
    · rename_i there
      rw [if_pos there] at enough
      rw [ih (Nat.le_of_succ_le_succ enough)]
    · rfl

/-- The number of nodes is fuel enough for all chunks. -/
theorem pathsFrom_nodes (s : FileStore) (stem : String) (chunk : Nat) : pathsFrom s stem s.nodes.length chunk =
    if s.isFile (pathOf stem chunk) then pathOf stem chunk :: pathsFrom s stem s.nodes.length (chunk + 1) else [] :=
  (pathsFrom_succ (length_pathsFrom_le s stem (s.nodes.length + 1) chunk)).symm

theorem pathsFrom_there (there : ∀ i < count, s.isFile (pathOf stem (chunk + i)) = true) :
    pathsFrom s stem s.nodes.length chunk =
      (List.range count).map (fun i => pathOf stem (chunk + i)) ++ pathsFrom s stem s.nodes.length (chunk + count) := by
  induction count with
  | zero => rfl
  | succ count ih =>
    rw [ih fun i inside => there i (Nat.lt_succ_of_lt inside), pathsFrom_nodes,
      if_pos (there count (Nat.lt_succ_self _)), List.range_succ, List.map_append, List.append_assoc]
    rfl

theorem readFrom_of_none (none : content? s stem chunk = none) : readFrom s stem chunk = .ok [] := by
  rw [readFrom, pathsFrom_nodes, isFile_pathOf, none]
  rfl

theorem readFrom_of_some (there : content? s stem chunk = some bytes) :
    readFrom s stem chunk = (checked (pathOf stem chunk) bytes).bind fun first =>
      (readFrom s stem (chunk + 1)).map (first.hits ++ ·) := by
  rw [readFrom, pathsFrom_nodes, isFile_pathOf, there]
  show (List.mapM (load s) (_ :: _)).map _ = _
  rw [List.mapM_cons, load_pathOf there]
  cases checked (pathOf stem chunk) bytes with
  | error reason => rfl
  | ok first =>
    rw [readFrom]
    cases (pathsFrom s stem s.nodes.length (chunk + 1)).mapM (load s) <;> rfl

theorem readDump_eq (there : content? s stem 0 = some bytes) : readDump s stem = readFrom s stem 0 := by
  unfold readDump
  rw [readFrom, DumpChunk.paths, pathsFrom_nodes, isFile_pathOf, there]
  show List.mapM (load s) _ >>= _ = Except.map _ (List.mapM (load s) _)
  cases List.mapM (load s) _ <;> rfl

/-- What is read depends on nothing but the bytes of the chunks. -/
theorem readFrom_congr (same : ∀ i, chunk ≤ i → content? q stem i = content? s stem i) :
    readFrom q stem chunk = readFrom s stem chunk := by
  induction length : (pathsFrom s stem s.nodes.length chunk).length generalizing chunk with
  | zero =>
    have none : content? s stem chunk = none := by
      rw [pathsFrom_nodes, isFile_pathOf] at length
      cases there : content? s stem chunk with
      | none => rfl
      | some bytes =>
        rw [there] at length
        cases length
    rw [readFrom_of_none none, readFrom_of_none ((same chunk (Nat.le_refl _)).trans none)]
  | succ count ih =>
    rw [pathsFrom_nodes, isFile_pathOf] at length
    cases there : content? s stem chunk with
    | none =>
      rw [there] at length
      cases length
    | some bytes =>
      rw [there] at length
      rw [readFrom_of_some there, readFrom_of_some ((same chunk (Nat.le_refl _)).trans there),
        ih (fun i behind => same i (Nat.le_of_succ_le behind)) (Nat.succ.inj length)]

/-- Chunks that were written are read one after the other. -/
theorem readFrom_written {parts : Nat → List Hit}
    (written : ∀ i < count, content? s stem (chunk + i) = some (bytesOf (parts i))) :
    readFrom s stem chunk =
      (readFrom s stem (chunk + count)).map (Hit.visible ((List.range count).flatMap parts) ++ ·) := by
  induction count with
  | zero =>
    show _ = (readFrom s stem chunk).map ([] ++ ·)
    cases readFrom s stem chunk <;> rfl
  | succ count ih =>
    have last : (DumpChunk.mk (pathOf stem (chunk + count)) (Hit.encodeAll (parts count))).hits =
        Hit.visible (parts count) := Hit.decode_recordsOf _
    rw [ih fun i inside => written i (Nat.lt_succ_of_lt inside),
      readFrom_of_some (written count (Nat.lt_succ_self _)), checked_bytesOf, List.range_succ, List.flatMap_append,
      Hit.visible_append]
    show ((readFrom s stem (chunk + count + 1)).map _).map _ = _
    rw [last, List.flatMap_singleton]
    cases readFrom s stem (chunk + count + 1) with
    | error reason => rfl
    | ok rest => exact congrArg Except.ok (List.append_assoc ..).symm

theorem flatMap_part (room : Nat) (given : List Hit) (chunk count : Nat) :
    (List.range count).flatMap (fun i => part room given (chunk + i)) =
      (given.drop (chunk * room)).take (count * room) := by
  induction count with
  | zero => rw [Nat.zero_mul]; rfl
  | succ count ih =>
    rw [List.range_succ, List.flatMap_append, ih, List.flatMap_singleton, Nat.succ_mul, List.take_add, List.drop_drop,
      ← Nat.add_mul]
    rfl

end DumpChunk

end EventFormation
