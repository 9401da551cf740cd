import EventFormation.Command.Execution
import EventFormation.Proofs.Dump.Counting
import EventFormation.Proofs.Dump.Reading

namespace EventFormation.Command

section Running

variable {α β : Type} {s q : Session}

/-- A command goes on from what its first step has left. -/
theorem bind_apply {first : Execution α} {value : α} (run : first s = (.ok value, q)) (next : α → Execution β) :
    (first >>= next) s = next value q := by
  show (ExceptT.bind first next : Execution β) s = _
  simp only [ExceptT.bind, ExceptT.mk, bind, StateT.bind]
  rw [run]
  rfl

theorem describeChunk_apply {path : String} {chunk : DumpChunk} (loaded : DumpChunk.load s.files path = .ok chunk) :
    describeChunk path s = (.ok chunk, { s with printed := s.printed ++ [.text chunk.line] }) := by
  unfold describeChunk
  have read : Execution.files s = (.ok s.files, s) := rfl
  rw [bind_apply read, loaded]
  rfl

/-- Chunks that can be loaded are described one after another. -/
theorem mapM_describeChunk {chunks : List DumpChunk}
    (loaded : ∀ chunk ∈ chunks, DumpChunk.load s.files chunk.path = .ok chunk) :
    (chunks.map (·.path)).mapM describeChunk s =
      (.ok chunks, { s with printed := s.printed ++ chunks.map fun chunk => .text chunk.line }) := by
  induction chunks generalizing s with
  | nil => simp only [List.map_nil, List.append_nil]; rfl
  | cons chunk rest ih =>
    have first := describeChunk_apply (loaded chunk List.mem_cons_self)
    have others := @ih { s with printed := s.printed ++ [.text chunk.line] } fun other member =>
      loaded other (List.mem_cons_of_mem chunk member)
    rw [List.map_cons, List.mapM_cons, bind_apply first, bind_apply others]
    simp only [List.map_cons, List.append_assoc, List.singleton_append]
    rfl

theorem forM_say (lines : List String) :
    (lines.forM fun line => Execution.say (.text line)) s =
      (.ok (), { s with printed := s.printed ++ lines.map .text }) := by
  induction lines generalizing s with
  | nil => simp only [List.map_nil, List.append_nil]; rfl
  | cons line rest ih =>
    have first : Execution.say (.text line) s = (.ok (), { s with printed := s.printed ++ [.text line] }) := rfl
    rw [List.forM, bind_apply first, ih]
    simp only [List.map_cons, List.append_assoc, List.singleton_append]

end Running

/-- The chunks of a dump. Behind the header of each stand whole records, of any bytes. -/
structure OnDisk (s : FileStore) (dump : String) (chunks : List DumpChunk) : Prop where
  paths : DumpChunk.paths s dump = chunks.map (·.path)
  content : ∀ chunk ∈ chunks,
    s.map chunk.path = .ok (DumpChunk.header ++ chunk.body) ∧ Hit.recordSize ∣ chunk.body.length

/-- The numbers that are told about a dump. -/
structure Told where
  lengths : List Nat
  total : Nat
  range? : Option (UInt64 × UInt64)
  counts : List (UInt8 × Nat)

def Told.lines (told : Told) (paths : List String) : List String :=
  List.zipWith (fun path length => path ++ ": " ++ toString length ++ " hits") paths told.lengths ++
    ["Chunks: " ++ toString paths.length, "Hits: " ++ toString told.total] ++
    told.range?.toList.map (fun (first, last) => "Time range: " ++ toString first ++ " - " ++ toString last) ++
    told.counts.map fun (plane, count) => "Plane " ++ toString plane ++ ": " ++ toString count ++ " hits"

/-- What the numbers say of the chunks and of the hits that are read from them. -/
structure Told.Of (told : Told) (chunks : List DumpChunk) (hits : List Hit) : Prop where
  lengths : told.lengths = chunks.map fun chunk => chunk.body.length / 16
  total : told.total = told.lengths.sum
  excess : told.total = hits.length + (chunks.flatMap fun chunk => Hit.recordsOf chunk.body).countP Hit.isReserved
  exact_iff : told.total = hits.length ↔ ∀ chunk ∈ chunks, ∀ record ∈ Hit.recordsOf chunk.body, record[12]? ≠ some 255
  range : ∀ first last, told.range? = some (first, last) ↔ Extremes (hits.map (·.time)) first last
  empty : told.range? = none ↔ hits = []
  counts : ∀ plane count, (plane, count) ∈ told.counts ↔ count = hits.countP (·.plane == plane) ∧ count ≠ 0
  sorted : told.counts.Pairwise fun a b => a.1 < b.1
  sum_counts : (told.counts.map (·.2)).sum = hits.length

variable {s : Session} {dump : String} {chunks : List DumpChunk}

theorem OnDisk.load {files : FileStore} (onDisk : OnDisk files dump chunks) {chunk : DumpChunk}
    (member : chunk ∈ chunks) : DumpChunk.load files chunk.path = .ok chunk := by
  obtain ⟨mapped, whole⟩ := onDisk.content chunk member
  rw [DumpChunk.load_of_map mapped, DumpChunk.checked_append _ whole]

theorem OnDisk.readDump_eq {files : FileStore} (onDisk : OnDisk files dump chunks) (some : chunks ≠ []) :
    readDump files dump = .ok (chunks.flatMap DumpChunk.hits) := by
  have loaded : (chunks.map (·.path)).mapM (DumpChunk.load files) = .ok chunks :=
    mapM_of_forall₂ (List.forall₂_map_left_iff.mpr (List.forall₂_same.mpr fun _ member => onDisk.load member))
  have several : ¬ (chunks.map (·.path)).isEmpty = true := by simpa using some
  simp only [readDump, onDisk.paths, if_neg several, loaded]
  rfl

/-- The numbers that are printed for some chunks. -/
def Told.ofChunks (chunks : List DumpChunk) : Told where
  lengths := chunks.map DumpChunk.length
  total := DumpSummary.records ⟨chunks⟩
  range? := DumpSummary.timeRange? (chunks.flatMap DumpChunk.hits)
  counts := DumpSummary.planeCounts (chunks.flatMap DumpChunk.hits)

theorem Told.lines_ofChunks (chunks : List DumpChunk) : (Told.ofChunks chunks).lines (chunks.map (·.path)) =
    chunks.map DumpChunk.line ++ DumpSummary.lines ⟨chunks⟩ := by
  have each : List.zipWith (fun path length => path ++ ": " ++ toString length ++ " hits") (chunks.map (·.path))
      (chunks.map DumpChunk.length) = chunks.map DumpChunk.line := by
    rw [List.zipWith_map, List.zipWith_self]
    rfl
  have times : (Told.ofChunks chunks).range?.toList.map
      (fun (first, last) => "Time range: " ++ toString first ++ " - " ++ toString last) =
      DumpSummary.timeLines (chunks.flatMap DumpChunk.hits) := by
    simp only [Told.ofChunks, DumpSummary.timeLines]
    split <;> rename_i range <;> rw [range] <;> rfl
  rw [Told.lines, times, DumpSummary.lines, List.length_map]
  simp only [Told.ofChunks, each, List.append_assoc]
  rfl

theorem describe_apply (onDisk : OnDisk s.files dump chunks) (some : chunks ≠ []) : describe dump s = (.ok (),
    { s with printed := s.printed ++ ((Told.ofChunks chunks).lines (chunks.map (·.path))).map .text }) := by
  have read : Execution.files s = (.ok s.files, s) := rfl
  have several : ¬ (chunks.map (·.path)).isEmpty = true := by simpa using some
  unfold describe
  rw [bind_apply read]
  simp only [onDisk.paths, if_neg several]
  rw [bind_apply (mapM_describeChunk fun chunk => onDisk.load), forM_say, Told.lines_ofChunks]
  simp only [List.map_append, List.map_map, List.append_assoc]
  rfl

/-- The numbers that are told add up, but what is called the number of hits is that of records. -/
theorem Told.ofChunks_of (chunks : List DumpChunk) : (Told.ofChunks chunks).Of chunks (chunks.flatMap DumpChunk.hits) := by
  let records := chunks.flatMap fun chunk => Hit.recordsOf chunk.body
  have whole : ∀ record ∈ records, record.length = Hit.recordSize := by
    intro record member
    obtain ⟨chunk, _, inside⟩ := List.mem_flatMap.mp member
    exact Hit.length_of_mem_recordsOf inside
  have read : records.filterMap Hit.decode? = chunks.flatMap DumpChunk.hits := List.filterMap_flatMap ..
  have total : (Told.ofChunks chunks).total = (chunks.map DumpChunk.length).sum := by
    rw [List.sum_eq_foldr, List.foldr_map]
    rfl
  have all : records.length = (chunks.map DumpChunk.length).sum := by
    rw [List.length_flatMap]
    simp only [Hit.length_recordsOf]
    rfl
  have excess : (Told.ofChunks chunks).total =
      (chunks.flatMap DumpChunk.hits).length + records.countP Hit.isReserved := by
    rw [total, ← all, Hit.length_eq_add_reserved whole, read]
  refine ⟨rfl, total, excess, ?_, fun _ _ => DumpSummary.timeRange?_eq_some_iff, DumpSummary.timeRange?_eq_none_iff,
    fun _ _ => DumpSummary.mem_planeCounts_iff, DumpSummary.planeCounts_sorted _, DumpSummary.sum_planeCounts _⟩
  rw [excess, Nat.add_eq_left, List.countP_eq_zero]
  simp only [records, List.mem_flatMap, Hit.isReserved, beq_iff_eq]
  constructor
  · exact fun none chunk member record inside => none record ⟨chunk, member, inside⟩
  · rintro none record ⟨chunk, member, inside⟩
    exact none chunk member record inside

theorem describe_nothing (onDisk : OnDisk s.files dump []) :
    readDump s.files dump = .error (.format (.noChunks dump)) ∧ describe dump s = (.ok (),
      { s with printed := s.printed ++ [.text ("No dump chunks found for " ++ dump)] }) := by
  have none : DumpChunk.paths s.files dump = [] := onDisk.paths
  have read : Execution.files s = (.ok s.files, s) := rfl
  constructor
  · rw [readDump, none]
    rfl
  · unfold describe
    rw [bind_apply read, none]
    rfl

/-- What is told about a dump agrees with what is read from it in the times, in the planes and in the sum over
the planes. The number of hits that is told counts the records on the reserved plane as well, which are not read,
so it is right just where there are none. -/
theorem describe_tells (onDisk : OnDisk s.files dump chunks) :
    (chunks = [] → readDump s.files dump = .error (.format (.noChunks dump)) ∧ describe dump s = (.ok (),
      { s with printed := s.printed ++ [.text ("No dump chunks found for " ++ dump)] })) ∧
    (chunks ≠ [] → ∃ hits told, readDump s.files dump = .ok hits ∧ Told.Of told chunks hits ∧
      describe dump s = (.ok (), { s with
        printed := s.printed ++ (told.lines (DumpChunk.paths s.files dump)).map .text })) := by
  constructor
  · rintro rfl
    exact describe_nothing onDisk
  · intro some
    refine ⟨_, _, onDisk.readDump_eq some, Told.ofChunks_of chunks, ?_⟩
    rw [describe_apply onDisk some, onDisk.paths]

/-- A chunk with a hit, a record on the reserved plane and an earlier hit, and one with nothing behind its header. -/
theorem describe_tells_three :
    let first : DumpChunk := ⟨"run_00000.dump", Hit.encodeAll [⟨9, 1, 4, 7⟩, ⟨5, 255, 4, 7⟩, ⟨2, 0, 4, 7⟩]⟩
    let second : DumpChunk := ⟨"run_00001.dump", []⟩
    let s : Session := { files := {
      nodes := [(NodePath.home ++ [first.path], .file 0), (NodePath.home ++ [second.path], .file 1),
        (["tmp"], .directory), (NodePath.home, .directory)]
      files := #[(DumpChunk.header ++ first.body).toArray, DumpChunk.header.toArray] } }
    OnDisk s.files "run" [first, second] ∧ ∃ told, readDump s.files "run" = .ok [⟨9, 1, 4, 7⟩, ⟨2, 0, 4, 7⟩] ∧
      Told.Of told [first, second] [⟨9, 1, 4, 7⟩, ⟨2, 0, 4, 7⟩] ∧ told.total = 3 := by
  intro first second s
  have onDisk : OnDisk s.files "run" [first, second] := by
    refine ⟨by decide +kernel, ?_⟩
    simp only [List.forall_mem_cons]
    decide +kernel
  have kept : readDump s.files "run" = .ok [⟨9, 1, 4, 7⟩, ⟨2, 0, 4, 7⟩] := eq_ok_of_toOption (by decide +kernel)
  obtain ⟨hits, told, read, of, _⟩ := (describe_tells onDisk).2 (List.cons_ne_nil _ _)
  obtain rfl := Except.ok.inj (kept.symm.trans read)
  refine ⟨onDisk, told, kept, of, ?_⟩
  rw [of.total, of.lengths]
  decide +kernel

/-- Of two hits that are generated the one on the reserved plane is written and told, but not read. -/
theorem describe_reserved_pair :
    let s := (generate "run" { planes := [0, 255], events := 1, trackLength := 1 } { files := {} }).2
    readDump s.files "run" = .ok [⟨0, 0, 154, 192⟩] ∧ (describe "run" { files := s.files }).2.printed =
      [.text "run_00000.dump: 2 hits", .text "Chunks: 1", .text "Hits: 2", .text "Time range: 0 - 0",
        .text "Plane 0: 1 hits"] := by
  intro s
  exact ⟨eq_ok_of_toOption (by decide +kernel), by decide +kernel⟩

end EventFormation.Command
