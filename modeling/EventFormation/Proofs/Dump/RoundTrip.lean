import EventFormation.Proofs.Dump.Reading
import Mathlib.Algebra.Group.Nat.Defs

namespace EventFormation

open DumpChunk (Apart content? pathOf part bytesOf readFrom)
open DumpWriter (room)

/-- Writes one batch of hits after the other, up to the first failure. -/
def DumpWriter.writeBatches : DumpWriter → FileStore → List (List Hit) → Except IoError (DumpWriter × FileStore)
  | w, s, [] => .ok (w, s)
  | w, s, hits :: rest =>
    match w.write s hits with
    | (w, s, none) => writeBatches w s rest
    | (_, _, some error) => .error error

/-- Writes a whole dump and returns the paths of its chunks. -/
def writeDump (s : FileStore) (stem : String) (limit : Nat) (batches : List (List Hit)) :
    Except IoError (List String × FileStore) := do
  let (w, s) ← DumpWriter.create s stem limit
  let (w, s) ← w.writeBatches s batches
  let (w, s) := w.flush s
  return (w.paths, s)

/-- A store in which a dump of these hits, in so many chunks, was written. -/
structure Written (s : FileStore) (stem : String) (limit : Nat) (given : List Hit) (count : Nat) (q : FileStore) :
    Prop where
  apart : Apart q stem
  begun : 0 < count
  filled : ∀ i, i + 1 < count → (i + 1) * room limit ≤ given.length
  within : given.length ≤ count * room limit
  chunks : ∀ i < count, content? q stem i = some (bytesOf (part (room limit) given i))
  untouched : ∀ i, count ≤ i → content? q stem i = content? s stem i

variable {s q r : FileStore} {stem : String} {limit limit' count : Nat} {given : List Hit}
  {batches batches' : List (List Hit)} {paths paths' : List String} {w v : DumpWriter}

theorem DumpWriter.Writing.writeBatches (writing : Writing s stem limit given w q)
    (run : w.writeBatches q batches = .ok (v, r)) : Writing s stem limit (given ++ batches.flatten) v r := by
  induction batches generalizing w q given with
  | nil =>
    cases run
    rwa [List.flatten_nil, List.append_nil]
  | cons hits rest ih =>
    unfold DumpWriter.writeBatches at run
    split at run
    · rename_i next middle wrote
      rw [List.flatten_cons, ← List.append_assoc]
      exact ih (writing.write wrote) run
    · cases run

theorem writeDump_written (apart : Apart s stem) (run : writeDump s stem limit batches = .ok (paths, q)) :
    paths = (List.range paths.length).map (pathOf stem) ∧
      Written s stem limit batches.flatten paths.length q := by
  obtain ⟨⟨w, first⟩, made, run⟩ := bind_eq_ok_iff.mp run
  obtain ⟨⟨v, middle⟩, wrote, run⟩ := bind_eq_ok_iff.mp run
  have writing := (DumpWriter.Writing.start apart made).writeBatches wrote
  obtain ⟨flushed, last⟩ := writing.flush
  obtain ⟨named, stored⟩ : (v.flush middle).1.paths = paths ∧ (v.flush middle).2 = q :=
    Prod.mk.inj (Except.ok.inj run)
  have chunks : (v.flush middle).1.paths = (List.range (v.chunk + 1)).map (pathOf stem) := by
    rw [DumpWriter.paths, flushed.titled, flushed.begun]
    rfl
  have length : (v.flush middle).1.paths.length = v.chunk + 1 := by rw [chunks, List.length_map, List.length_range]
  rw [← named, ← stored, length]
  refine ⟨chunks, ?_⟩
  rw [List.nil_append] at flushed last
  have reached := flushed.reached
  refine ⟨flushed.apart, Nat.succ_pos _, fun i before => ?_, flushed.within, fun i inside => ?_, flushed.untouched⟩
  · exact Nat.le_trans (Nat.mul_le_mul_right _ (Nat.le_of_succ_le_succ before)) reached
  · rcases Nat.lt_or_eq_of_le (Nat.le_of_lt_succ inside) with before | rfl
    · exact flushed.complete i before
    · rw [last, DumpChunk.part_eq_drop]
      exact flushed.within

theorem Written.isFile (written : Written s stem limit given count q) {i : Nat} (inside : i < count) :
    q.isFile (pathOf stem i) = true := by
  rw [DumpChunk.isFile_pathOf, written.chunks i inside]
  rfl

/-- From any chunk on, a dump is read up to its end, and then what was there before it. -/
theorem Written.readFrom_eq (written : Written s stem limit given count q) (chunk : Nat) :
    readFrom q stem chunk = (readFrom s stem (max count chunk)).map
      (Hit.visible (given.drop (chunk * room limit)) ++ ·) := by
  have rest {chunk : Nat} (behind : count ≤ chunk) : readFrom q stem chunk = readFrom s stem chunk :=
    DumpChunk.readFrom_congr fun i later => written.untouched i (Nat.le_trans behind later)
  rcases Nat.le_total count chunk with behind | before
  · have none : given.drop (chunk * room limit) = [] :=
      List.drop_eq_nil_of_le (Nat.le_trans written.within (Nat.mul_le_mul_right _ behind))
    rw [rest behind, Nat.max_eq_right behind, none]
    show _ = (readFrom s stem chunk).map ([] ++ ·)
    cases readFrom s stem chunk <;> rfl
  · obtain ⟨more, rfl⟩ := Nat.exists_eq_add_of_le before
    have parts (i : Nat) (inside : i < more) :
        content? q stem (chunk + i) = some (bytesOf (part (room limit) given (chunk + i))) :=
      written.chunks _ (Nat.add_lt_add_left inside chunk)
    have whole : (given.drop (chunk * room limit)).take (more * room limit) = given.drop (chunk * room limit) := by
      have within := written.within
      rw [Nat.add_mul] at within
      exact List.take_of_length_le (by rw [List.length_drop]; omega)
    rw [DumpChunk.readFrom_written parts, DumpChunk.flatMap_part, whole, rest (Nat.le_refl _), Nat.max_eq_left before]

theorem Written.readDump_eq (written : Written s stem limit given count q) :
    readDump q stem = (readFrom s stem count).map (Hit.visible given ++ ·) := by
  rw [DumpChunk.readDump_eq (written.chunks 0 written.begun), written.readFrom_eq 0, Nat.max_zero, Nat.zero_mul,
    List.drop_zero]

/-- A chunk is no longer than it may be, and if it is not the last one there is no room for another hit. -/
theorem Written.length_le (written : Written s stem limit given count q) {i : Nat} (inside : i < count) :
    ∃ bytes chunk, q.map (pathOf stem i) = .ok bytes ∧ DumpChunk.load q (pathOf stem i) = .ok chunk ∧
      bytes.length ≤ max limit (DumpChunk.headerSize + Hit.recordSize) ∧
      (i + 1 < count → max limit (DumpChunk.headerSize + Hit.recordSize) < bytes.length + Hit.recordSize) := by
  have there := written.chunks i inside
  refine ⟨_, _, DumpChunk.map_pathOf there, (DumpChunk.load_pathOf there).trans (DumpChunk.checked_bytesOf _ _), ?_,
    fun more => ?_⟩
  · have few : (part (room limit) given i).length ≤ room limit := List.length_take_le ..
    rw [DumpChunk.length_bytesOf]
    simp only [room, DumpChunk.headerSize, Hit.recordSize] at few ⊢
    omega
  · rw [DumpChunk.length_bytesOf, DumpChunk.length_part_of_full (written.filled i more)]
    simp only [room, DumpChunk.headerSize, Hit.recordSize]
    omega

/-- Where there was no dump before, a dump is read as it was written, and its chunks are as long as they may be. -/
theorem readDump_writeDump (new : ∀ chunk, s.isFile (pathOf stem chunk) = false)
    (run : writeDump s stem limit batches = .ok (paths, q)) :
    readDump q stem = .ok (Hit.visible batches.flatten) ∧ paths = DumpChunk.paths q stem ∧
      ∀ i path, paths[i]? = some path → ∃ bytes chunk, q.map path = .ok bytes ∧ DumpChunk.load q path = .ok chunk ∧
        bytes.length ≤ max limit (DumpChunk.headerSize + Hit.recordSize) ∧
        (i + 1 < paths.length → max limit (DumpChunk.headerSize + Hit.recordSize) < bytes.length + Hit.recordSize) := by
  obtain ⟨chunks, written⟩ := writeDump_written (.of_none new) run
  have none (chunk : Nat) : content? s stem chunk = none := DumpChunk.content?_eq_none (new chunk)
  refine ⟨?_, ?_, fun i path at_i => ?_⟩
  · rw [written.readDump_eq, DumpChunk.readFrom_of_none (none _)]
    exact congrArg Except.ok (List.append_nil _)
  · have rest : DumpChunk.pathsFrom q stem q.nodes.length (0 + paths.length) = [] := by
      rw [DumpChunk.pathsFrom_nodes, DumpChunk.isFile_pathOf, written.untouched _ (by omega), none]
      rfl
    rw [DumpChunk.paths, DumpChunk.pathsFrom_there fun i inside => by rw [Nat.zero_add]; exact written.isFile inside,
      rest, List.append_nil]
    simpa using chunks
  · have inside : i < paths.length := (List.getElem?_eq_some_iff.mp at_i).1
    rw [chunks, List.getElem?_map, List.getElem?_range inside] at at_i
    cases at_i
    exact written.length_le inside

theorem isFile_of_directories (none : ∀ entry ∈ s.nodes, entry.2 = .directory) (chunk : Nat) :
    s.isFile (pathOf stem chunk) = false := by
  obtain ⟨naming⟩ := DumpChunk.exists_naming stem
  rw [FileStore.isFile_eq, Option.isSome_eq_false_iff, Option.isNone_iff_eq_none, Option.eq_none_iff_forall_ne_some]
  intro number there
  obtain ⟨_, folder, _, node⟩ := naming.number?_eq_some_iff.mp there
  cases none _ (FileStore.mem_nodes_of_file node)

/-- Three hits in two batches, one of them on the reserved plane, in chunks of two hits. -/
theorem readDump_writeDump_three :
    let batches : List (List Hit) := [[⟨1, 0, 4, 7⟩], [⟨2, 255, 5, 7⟩, ⟨3, 1, 6, 7⟩]]
    ∃ q, writeDump {} "run" 48 batches = .ok (["run_00000.dump", "run_00001.dump"], q) ∧
      readDump q "run" = .ok [⟨1, 0, 4, 7⟩, ⟨3, 1, 6, 7⟩] ∧
      ["run_00000.dump", "run_00001.dump"] = DumpChunk.paths q "run" := by
  intro batches
  have paths : (writeDump {} "run" 48 batches).toOption.map (·.1) = some ["run_00000.dump", "run_00001.dump"] := by
    decide +kernel
  obtain ⟨⟨_, q⟩, run, rfl⟩ := Option.map_eq_some_iff.mp paths
  have run := eq_ok_of_toOption run
  obtain ⟨read, all, _⟩ := readDump_writeDump (isFile_of_directories (by decide)) run
  exact ⟨q, run, read, all⟩

/-- A dump that is written over another one is read with what it left of that: the chunks of the first dump behind
its own, and then those that are older than both. It replaces the first one just where these hold no hits. -/
theorem readDump_overwritten (apart : Apart s stem) (first : writeDump s stem limit batches = .ok (paths, q))
    (second : writeDump q stem limit' batches' = .ok (paths', r)) :
    readDump r stem = (readFrom s stem (max paths.length paths'.length)).map (fun older =>
        Hit.visible batches'.flatten ++
          (Hit.visible (batches.flatten.drop (paths'.length * room limit)) ++ older)) ∧
      (readDump r stem = .ok (Hit.visible batches'.flatten) ↔
        Hit.visible (batches.flatten.drop (paths'.length * room limit)) = [] ∧
          readFrom s stem (max paths.length paths'.length) = .ok []) := by
  obtain ⟨_, written⟩ := writeDump_written apart first
  obtain ⟨_, written'⟩ := writeDump_written written.apart second
  have read : readDump r stem = (readFrom s stem (max paths.length paths'.length)).map (fun older =>
      Hit.visible batches'.flatten ++
        (Hit.visible (batches.flatten.drop (paths'.length * room limit)) ++ older)) := by
    rw [written'.readDump_eq, written.readFrom_eq]
    cases readFrom s stem (max paths.length paths'.length) <;> rfl
  refine ⟨read, ?_⟩
  rw [read]
  cases readFrom s stem (max paths.length paths'.length) with
  | error reason =>
    constructor
    · intro same
      cases same
    · rintro ⟨_, none⟩
      cases none
  | ok older =>
    show Except.ok _ = Except.ok _ ↔ _
    rw [Except.ok.injEq, List.append_right_eq_self, List.append_eq_nil_iff, Except.ok.injEq]

/-- One chunk is written over with two, and nothing is left of it. -/
theorem readDump_overwritten_longer :
    ∃ paths q paths' r, writeDump {} "run" 32 [[⟨1, 0, 4, 7⟩]] = .ok (paths, q) ∧
      writeDump q "run" 32 [[⟨2, 0, 5, 7⟩], [⟨3, 1, 6, 7⟩]] = .ok (paths', r) ∧
      readDump r "run" = .ok [⟨2, 0, 5, 7⟩, ⟨3, 1, 6, 7⟩] := by
  have runs : ((writeDump {} "run" 32 [[⟨1, 0, 4, 7⟩]]).toOption.bind fun first =>
      (writeDump first.2 "run" 32 [[⟨2, 0, 5, 7⟩], [⟨3, 1, 6, 7⟩]]).toOption.map fun second =>
        (first.1.length, second.1.length)) = some (1, 2) := by decide +kernel
  obtain ⟨⟨paths, q⟩, first, runs⟩ := Option.bind_eq_some_iff.mp runs
  obtain ⟨⟨paths', r⟩, second, runs⟩ := Option.map_eq_some_iff.mp runs
  obtain ⟨one, two⟩ := Prod.ext_iff.mp runs
  have first := eq_ok_of_toOption first
  have second := eq_ok_of_toOption second
  have new := @isFile_of_directories {} "run" (by decide)
  obtain ⟨_, replaced⟩ := readDump_overwritten (.of_none new) first second
  have rest := DumpChunk.readFrom_of_none (DumpChunk.content?_eq_none (new (max paths.length paths'.length)))
  refine ⟨paths, q, paths', r, first, second, replaced.mpr ⟨?_, rest⟩⟩
  rw [show paths'.length = 2 from two]
  rfl

/-- Two chunks are written over with one, and the second is still read. -/
theorem readDump_overwritten_shorter :
    ∃ paths q paths' r, writeDump {} "run" 32 [[⟨1, 0, 4, 7⟩, ⟨2, 0, 5, 7⟩]] = .ok (paths, q) ∧
      writeDump q "run" 32 [[⟨3, 1, 6, 7⟩]] = .ok (paths', r) ∧
      readDump r "run" = .ok [⟨3, 1, 6, 7⟩, ⟨2, 0, 5, 7⟩] := by
  have runs : ((writeDump {} "run" 32 [[⟨1, 0, 4, 7⟩, ⟨2, 0, 5, 7⟩]]).toOption.bind fun first =>
      (writeDump first.2 "run" 32 [[⟨3, 1, 6, 7⟩]]).toOption.bind fun second => (readDump second.2 "run").toOption) =
      some [⟨3, 1, 6, 7⟩, ⟨2, 0, 5, 7⟩] := by decide +kernel
  obtain ⟨⟨paths, q⟩, first, runs⟩ := Option.bind_eq_some_iff.mp runs
  obtain ⟨⟨paths', r⟩, second, read⟩ := Option.bind_eq_some_iff.mp runs
  exact ⟨paths, q, paths', r, eq_ok_of_toOption first, eq_ok_of_toOption second, eq_ok_of_toOption read⟩

end EventFormation
