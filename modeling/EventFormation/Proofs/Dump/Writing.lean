import EventFormation.Dump.Writer
import EventFormation.Proofs.Dump.Chunks
import EventFormation.Proofs.Readout.Records

namespace EventFormation

namespace DumpChunk

/-- The bytes of a chunk with these hits. -/
def bytesOf (hits : List Hit) : List UInt8 := header ++ Hit.encodeAll hits

/-- What a chunk gets of the given hits, if every chunk has room for so many. -/
def part (room : Nat) (given : List Hit) (chunk : Nat) : List Hit := (given.drop (chunk * room)).take room

theorem length_header : header.length = headerSize := by decide +kernel

theorem length_bytesOf (hits : List Hit) : (bytesOf hits).length = headerSize + hits.length * Hit.recordSize := by
  rw [bytesOf, List.length_append, length_header, Hit.length_encodeAll]

variable {room chunk : Nat} {given : List Hit}

theorem part_append (full : (chunk + 1) * room ≤ given.length) (more : List Hit) :
    part room (given ++ more) chunk = part room given chunk := by
  rw [Nat.succ_mul] at full
  have enough : room ≤ (given.drop (chunk * room)).length := by
    rw [List.length_drop]
    omega
  rw [part, List.drop_append_of_le_length (by omega), List.take_append_of_le_length enough, part]

theorem length_part_of_full (full : (chunk + 1) * room ≤ given.length) : (part room given chunk).length = room := by
  rw [Nat.succ_mul] at full
  rw [part, List.length_take, List.length_drop, Nat.min_eq_left (by omega)]

theorem part_eq_drop (within : given.length ≤ (chunk + 1) * room) :
    part room given chunk = given.drop (chunk * room) := by
  rw [Nat.succ_mul] at within
  exact List.take_of_length_le (by rw [List.length_drop]; omega)

end DumpChunk

namespace DumpWriter

open DumpChunk (Apart content? pathOf part bytesOf)

/-- How many hits a chunk has room for. -/
def room (limit : Nat) : Nat :=
  (max limit (DumpChunk.headerSize + Hit.recordSize) - DumpChunk.headerSize) / Hit.recordSize

/-- A writer that began in one store and has come to another one, and the hits that it was given until then. -/
structure Writing (s : FileStore) (stem : String) (limit : Nat) (given : List Hit) (w : DumpWriter) (q : FileStore) :
    Prop where
  titled : w.stem = stem
  limited : w.limit = max limit (DumpChunk.headerSize + Hit.recordSize)
  begun : w.chunks = List.range (w.chunk + 1)
  written : w.written = DumpChunk.headerSize + (given.length - w.chunk * room limit) * Hit.recordSize
  reached : w.chunk * room limit ≤ given.length
  within : given.length ≤ (w.chunk + 1) * room limit
  apart : Apart q stem
  current : q.number? (pathOf stem w.chunk) = some w.file.number
  holds : w.file.Holds q (bytesOf (given.drop (w.chunk * room limit)))
  complete : ∀ i < w.chunk, content? q stem i = some (bytesOf (part (room limit) given i))
  untouched : ∀ i, w.chunk < i → content? q stem i = content? s stem i

variable {s q r : FileStore} {stem : String} {limit chunk : Nat} {given : List Hit} {w v : DumpWriter}
  {file : OpenFile}

theorem room_pos (limit : Nat) : 0 < room limit := by
  simp only [room, DumpChunk.headerSize, Hit.recordSize]
  omega

theorem openChunk_opened (apart : Apart s stem) (run : openChunk s (pathOf stem chunk) = .ok (file, q)) :
    Apart q stem ∧ q.number? (pathOf stem chunk) = some file.number ∧ file.Holds q (bytesOf []) ∧
      ∀ other ≠ chunk, content? q stem other = content? s stem other := by
  unfold openChunk at run
  split at run
  · cases run
  · rename_i number made create
    have created := DumpChunk.create_created apart create
    have opened := Except.ok.inj run
    have fresh : ({ number } : OpenFile).Holds made [] :=
      ⟨created.inside, by rw [created.blank]; rfl, by rw [created.blank]; rfl⟩
    have holds := fresh.write DumpChunk.header
    obtain ⟨same, rewritten⟩ := OpenFile.write_rewritten { number } made DumpChunk.header
    rw [opened] at holds same rewritten
    refine ⟨created.apart.rewritten rewritten, ?_, ?_, fun other different => ?_⟩
    · rw [rewritten.number?_eq, created.there]
      exact congrArg some same.symm
    · rw [bytesOf, show Hit.encodeAll [] = [] from rfl, List.append_nil]
      exact holds
    · rw [DumpChunk.content?_of_rewritten created.apart created.there rewritten different,
        created.content?_of_ne apart different]

theorem Writing.start (apart : Apart s stem) (run : create s stem limit = .ok (w, q)) :
    Writing s stem limit [] w q := by
  obtain ⟨⟨file, q⟩, opened, made⟩ := bind_eq_ok_iff.mp run
  cases made
  obtain ⟨apart, there, holds, others⟩ := openChunk_opened apart opened
  refine ⟨rfl, rfl, rfl, ?_, ?_, Nat.zero_le _, apart, there, ?_, fun i none => absurd none (Nat.not_lt_zero i),
    fun i later => others i (Nat.ne_of_gt later)⟩
  · simp
  · simp
  · rw [List.drop_nil]
    exact holds

theorem Writing.isFull_iff (writing : Writing s stem limit given w q) :
    w.isFull = true ↔ given.length = (w.chunk + 1) * room limit := by
  have reached := writing.reached
  have within := writing.within
  unfold isFull
  rw [decide_eq_true_eq, writing.written, writing.limited]
  rw [Nat.succ_mul] at within ⊢
  simp only [room, DumpChunk.headerSize, Hit.recordSize] at reached within ⊢
  omega

theorem flush_eq (w : DumpWriter) (q : FileStore) :
    w.flush q = ({ w with file := (w.file.flush q).1 }, (w.file.flush q).2) := rfl

theorem put_eq (w : DumpWriter) (q : FileStore) (hit : Hit) :
    w.put q hit = ({ w with file := (w.file.write q hit.encode).1, written := w.written + Hit.recordSize },
      (w.file.write q hit.encode).2) := rfl

/-- The current chunk is written out, and nothing else happens. -/
theorem Writing.flush (writing : Writing s stem limit given w q) :
    Writing s stem limit given (w.flush q).1 (w.flush q).2 ∧
      content? (w.flush q).2 stem w.chunk = some (bytesOf (given.drop (w.chunk * room limit))) := by
  obtain ⟨holds, all⟩ := writing.holds.flush
  obtain ⟨same, rewritten⟩ := w.file.flush_rewritten q
  have names := rewritten.number?_eq
  have others {i : Nat} (different : i ≠ w.chunk) : content? (w.file.flush q).2 stem i = content? q stem i :=
    DumpChunk.content?_of_rewritten writing.apart writing.current rewritten different
  rw [flush_eq]
  refine ⟨⟨writing.titled, writing.limited, writing.begun, writing.written, writing.reached, writing.within,
    writing.apart.rewritten rewritten, (names _).trans writing.current, holds, fun i before => ?_,
    fun i later => ?_⟩, ?_⟩
  · exact (others (Nat.ne_of_lt before)).trans (writing.complete i before)
  · exact (others (Nat.ne_of_gt later)).trans (writing.untouched i later)
  · show ((w.file.flush q).2.number? (pathOf stem w.chunk)).map _ = _
    rw [names, writing.current]
    exact congrArg some all

theorem Writing.put (writing : Writing s stem limit given w q) (free : ¬ w.isFull = true) (hit : Hit) :
    Writing s stem limit (given ++ [hit]) (w.put q hit).1 (w.put q hit).2 := by
  have reached := writing.reached
  have within := writing.within
  have short := mt writing.isFull_iff.mpr free
  obtain ⟨same, rewritten⟩ := w.file.write_rewritten q hit.encode
  have names := rewritten.number?_eq
  have others {i : Nat} (different : i ≠ w.chunk) :
      content? (w.file.write q hit.encode).2 stem i = content? q stem i :=
    DumpChunk.content?_of_rewritten writing.apart writing.current rewritten different
  rw [put_eq]
  have length : (given ++ [hit]).length = given.length + 1 := by simp
  refine ⟨writing.titled, writing.limited, writing.begun, ?_, ?_, ?_, writing.apart.rewritten rewritten, ?_, ?_,
    fun i before => ?_, fun i later => (others (Nat.ne_of_gt later)).trans (writing.untouched i later)⟩
  · show w.written + Hit.recordSize = _
    rw [writing.written, length, Nat.add_assoc, ← Nat.succ_mul, ← Nat.succ_sub reached]
  · exact length ▸ Nat.le_succ_of_le reached
  · rw [length]
    exact Nat.lt_of_le_of_ne within short
  · exact (names _).trans (writing.current.trans (congrArg some same.symm))
  · have holds := writing.holds.write hit.encode
    have more : bytesOf ((given ++ [hit]).drop (w.chunk * room limit)) =
        bytesOf (given.drop (w.chunk * room limit)) ++ hit.encode := by
      rw [List.drop_append_of_le_length reached, bytesOf, Hit.encodeAll_append, ← List.append_assoc]
      simp [Hit.encodeAll, bytesOf]
    rw [← more] at holds
    exact holds
  · have full : (i + 1) * room limit ≤ given.length := Nat.le_trans (Nat.mul_le_mul_right _ before) reached
    rw [DumpChunk.part_append full, ← writing.complete i before]
    exact others (Nat.ne_of_lt before)

/-- A full chunk is left for the next one, which has room for a hit. -/
theorem Writing.rotate (writing : Writing s stem limit given w q) (full : w.isFull = true)
    (run : w.rotate q = (v, r, none)) : Writing s stem limit given v r ∧ ¬ v.isFull = true := by
  have length := writing.isFull_iff.mp full
  obtain ⟨flushed, last⟩ := writing.flush
  unfold DumpWriter.rotate at run
  rw [flush_eq] at flushed last run
  dsimp only at flushed last run
  split at run
  · cases run
  · rename_i file q' begun
    cases run
    rw [writing.titled] at begun
    obtain ⟨apart, there, holds, others⟩ := openChunk_opened flushed.apart begun
    have rest : given.drop ((w.chunk + 1) * room limit) = [] := List.drop_eq_nil_of_le (Nat.le_of_eq length)
    have next : Writing s stem limit given
        { w with
          chunk := w.chunk + 1, file, written := DumpChunk.headerSize, chunks := w.chunks ++ [w.chunk + 1] } r := by
      refine ⟨writing.titled, writing.limited, ?_, ?_, Nat.le_of_eq length.symm, ?_, apart, there, ?_,
        fun i before => ?_, fun i later => ?_⟩
      · rw [writing.begun]
        exact List.range_succ.symm
      · rw [length, Nat.sub_self, Nat.zero_mul]
        rfl
      · rw [length]
        exact Nat.mul_le_mul_right _ (Nat.le_succ _)
      · rw [rest]
        exact holds
      · rw [others i (Nat.ne_of_lt before)]
        rcases Nat.lt_or_eq_of_le (Nat.le_of_lt_succ before) with earlier | rfl
        · exact flushed.complete i earlier
        · rw [last, DumpChunk.part_eq_drop (Nat.le_of_eq length)]
      · rw [others i (Nat.ne_of_gt later)]
        exact flushed.untouched i (Nat.lt_of_succ_lt later)
    refine ⟨next, fun again => ?_⟩
    have twice := next.isFull_iff.mp again
    rw [length] at twice
    have room := room_pos limit
    rw [Nat.succ_mul (w.chunk + 1)] at twice
    omega

theorem Writing.write (writing : Writing s stem limit given w q) {hits : List Hit}
    (run : w.write q hits = (v, r, none)) : Writing s stem limit (given ++ hits) v r := by
  induction hits generalizing w q given with
  | nil =>
    cases run
    rwa [List.append_nil]
  | cons hit rest ih =>
    rw [List.append_cons]
    unfold DumpWriter.write at run
    split at run
    · rename_i full
      split at run
      · cases run
      · rename_i next opened rotated
        obtain ⟨turned, free⟩ := writing.rotate full rotated
        exact ih (turned.put free hit) run
    · rename_i free
      exact ih (writing.put free hit) run

end DumpWriter

end EventFormation
