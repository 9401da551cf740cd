import EventFormation.Dump.Chunk
import EventFormation.Proofs.Files.Storing
import Mathlib.Data.Nat.Digits.Defs

namespace EventFormation

namespace WrittenPath

theorem splitSlashes_plain {text : List Char} (plain : '/' ∉ text) : splitSlashes text = [text] := by
  induction text with
  | nil => rfl
  | cons c rest ih =>
    rw [List.mem_cons, not_or] at plain
    rw [splitSlashes, ih plain.2]
    exact if_neg (Ne.symm plain.1)

/-- Text without a slash that is added to a path only makes its last part longer. -/
theorem splitSlashes_append (before : List Char) :
    ∃ front last, ∀ after, '/' ∉ after → splitSlashes (before ++ after) = front ++ [last ++ after] := by
  induction before with
  | nil => exact ⟨[], [], fun after plain => splitSlashes_plain plain⟩
  | cons c rest ih =>
    obtain ⟨front, last, split⟩ := ih
    by_cases slash : c = '/'
    · refine ⟨[] :: front, last, fun after plain => ?_⟩
      rw [List.cons_append, splitSlashes, split after plain]
      cases front <;> simp [slash]
    · cases front with
      | nil =>
        refine ⟨[], c :: last, fun after plain => ?_⟩
        rw [List.cons_append, splitSlashes, split after plain]
        simp [slash]
      | cons name names =>
        refine ⟨(c :: name) :: names, last, fun after plain => ?_⟩
        rw [List.cons_append, splitSlashes, split after plain]
        simp [slash]

theorem parse_eq_ok {text : String} {path : WrittenPath} (run : parse text = .ok path) : path = ofString text := by
  unfold parse at run
  split at run
  · cases run
  · split at run
    · cases run
    · split at run
      · cases run
      · exact (Except.ok.inj run).symm

end WrittenPath

namespace DumpChunk

/-- What the path of a chunk has behind the stem. -/
def suffix (chunk : Nat) : List Char :=
  '_' :: (List.replicate (5 - (Nat.toDigits 10 chunk).length) '0' ++ Nat.toDigits 10 chunk ++ ".dump".toList)

theorem toList_pathOf (stem : String) (chunk : Nat) : (pathOf stem chunk).toList = stem.toList ++ suffix chunk := by
  have digits : toString chunk = String.ofList (Nat.toDigits 10 chunk) := rfl
  simp only [pathOf, digits, String.length_ofList, String.toList_append, String.toList_ofList, suffix,
    List.append_assoc]
  rfl

theorem slash_not_mem_suffix (chunk : Nat) : '/' ∉ suffix chunk := by
  have digits : '/' ∉ Nat.toDigits 10 chunk := by
    intro member
    have digit : Char.isDigit '/' = true := Nat.isDigit_of_mem_toDigits (by decide) (by decide) member
    cases digit
  simp only [suffix, List.mem_cons, List.mem_append, List.mem_replicate, not_or, not_and]
  exact ⟨by decide, ⟨fun _ => by decide, digits⟩, by decide⟩

/-- The digits can be read back, however many zeros are in front of them. -/
theorem suffix_injective {i j : Nat} (same : suffix i = suffix j) : i = j := by
  have digits := List.append_cancel_right (List.cons.inj same).2
  have value (chunk : Nat) : Nat.ofDigitChars 10
      (List.replicate (5 - (Nat.toDigits 10 chunk).length) '0' ++ Nat.toDigits 10 chunk) 0 = chunk := by
    rw [Nat.ofDigitChars_append, Nat.ofDigitChars_replicate_zero]
    simp
  rw [← value i, ← value j, digits]

/-- Where the chunks of a dump are looked for: in one folder, each under a name of its own. -/
structure Naming (stem : String) where
  front : List String
  rooted : Bool
  name : Nat → String
  written : ∀ chunk, WrittenPath.ofString (pathOf stem chunk) =
    { names := front ++ [name chunk], rooted, slashed := false }
  proper : ∀ chunk, name chunk ≠ "." ∧ name chunk ≠ ".."
  distinct : ∀ i j, name i = name j → i = j

theorem exists_naming (stem : String) : Nonempty (Naming stem) := by
  obtain ⟨front, last, split⟩ := WrittenPath.splitSlashes_append stem.toList
  have ends (chunk : Nat) : (last ++ suffix chunk).getLast? = some 'p' := by
    rw [suffix, ← List.cons_append, ← List.append_assoc, List.getLast?_append]
    rfl
  have other (chunk : Nat) {text : String} (apart : text.toList.getLast? ≠ some 'p') :
      String.ofList (last ++ suffix chunk) ≠ text := by
    rintro rfl
    rw [String.toList_ofList, ends] at apart
    exact apart rfl
  refine ⟨(front.map String.ofList).filter (· != ""), (stem.toList ++ ['_']).head? = some '/',
    fun chunk => String.ofList (last ++ suffix chunk), fun chunk => ?_,
    fun chunk => ⟨other chunk (by decide), other chunk (by decide)⟩, fun i j same => ?_⟩
  · have parts := split (suffix chunk) (slash_not_mem_suffix chunk)
    have rooted : (stem.toList ++ suffix chunk).head? = (stem.toList ++ ['_']).head? := by
      rw [suffix, List.head?_append, List.head?_append]
      rfl
    have filled : suffix chunk ≠ [] := List.cons_ne_nil _ _
    simp only [WrittenPath.ofString, toList_pathOf, parts, rooted, List.map_append, List.map_cons, List.map_nil,
      List.filter_append, List.getLast?_append]
    simp [filled]
  · have same := List.append_cancel_left (String.ofList_injective same)
    exact suffix_injective same

namespace Naming

variable {stem : String} {s q : FileStore} {chunk number : Nat}

/-- The folder of all chunks, if it can be reached. -/
def folder (naming : Naming stem) (s : FileStore) : Except FileError NodePath :=
  naming.front.foldlM s.enter (if naming.rooted then [] else NodePath.home)

/-- Neither the path of the chunk nor its name is too long. -/
def Allowed (naming : Naming stem) (chunk : Nat) : Prop :=
  (∃ path, WrittenPath.parse (pathOf stem chunk) = .ok path) ∧
    (naming.name chunk).utf8ByteSize ≤ WrittenPath.longestName

variable (naming : Naming stem)

/-- All chunks are looked up in one folder, under their names. -/
theorem locate_eq {path : WrittenPath} (parsed : WrittenPath.parse (pathOf stem chunk) = .ok path) :
    s.locate (pathOf stem chunk) = (naming.folder s).map fun folder => .entry folder (naming.name chunk) false := by
  obtain rfl := WrittenPath.parse_eq_ok parsed
  unfold FileStore.locate
  rw [parsed, naming.written]
  show ((naming.front ++ [naming.name chunk]).dropLast.foldlM s.enter
    (if naming.rooted then [] else NodePath.home) >>= _) = _
  rw [List.dropLast_concat, List.getLast?_concat, folder]
  obtain ⟨dot, dots⟩ := naming.proper chunk
  cases naming.front.foldlM s.enter (if naming.rooted then [] else NodePath.home) with
  | error reason => rfl
  | ok folder =>
    dsimp only [bind, Except.bind]
    split
    · rename_i none
      cases none
    · rename_i same
      exact absurd (Option.some.inj same) dot
    · rename_i same
      exact absurd (Option.some.inj same) dots
    · rename_i same
      cases same
      rfl

theorem locate_eq_ok_iff {target : FileStore.Target} : s.locate (pathOf stem chunk) = .ok target ↔
    (∃ path, WrittenPath.parse (pathOf stem chunk) = .ok path) ∧
      ∃ folder, naming.folder s = .ok folder ∧ target = .entry folder (naming.name chunk) false := by
  constructor
  · intro run
    cases parsed : WrittenPath.parse (pathOf stem chunk) with
    | error reason =>
      unfold FileStore.locate at run
      rw [parsed] at run
      cases run
    | ok path =>
      rw [naming.locate_eq parsed] at run
      cases entered : naming.folder s with
      | error reason =>
        rw [entered] at run
        cases run
      | ok folder =>
        rw [entered] at run
        exact ⟨⟨path, rfl⟩, folder, rfl, (Except.ok.inj run).symm⟩
  · rintro ⟨⟨path, parsed⟩, folder, entered, rfl⟩
    rw [naming.locate_eq parsed, entered]
    rfl

/-- A chunk is there if its name stands for a file in the folder. -/
theorem number?_eq_some_iff : s.number? (pathOf stem chunk) = some number ↔
    naming.Allowed chunk ∧ ∃ folder, naming.folder s = .ok folder ∧
      s.node? (folder ++ [naming.name chunk]) = some (.file number) := by
  constructor
  · intro there
    unfold FileStore.number? at there
    split at there
    · rename_i found
      cases there
      obtain ⟨target, located, run⟩ := bind_eq_ok_iff.mp found
      obtain ⟨parsed, folder, entered, rfl⟩ := naming.locate_eq_ok_iff.mp located
      obtain ⟨node, looked, run⟩ := bind_eq_ok_iff.mp run
      unfold FileStore.lookup at looked
      split at looked
      · cases looked
      · rename_i short
        refine ⟨⟨parsed, Nat.not_lt.mp short⟩, folder, entered, ?_⟩
        rw [Except.ok.inj looked]
        cases node with
        | none => cases run
        | some node =>
          cases node with
          | directory => cases run
          | file number => cases run; rfl
    · cases there
  · rintro ⟨⟨parsed, short⟩, folder, entered, there⟩
    have located := naming.locate_eq_ok_iff.mpr ⟨parsed, folder, entered, rfl⟩
    have found : s.find (pathOf stem chunk) = .ok (.file number) := by
      unfold FileStore.find
      rw [located]
      show (s.lookup folder (naming.name chunk) >>= _) = _
      rw [FileStore.lookup, if_neg (Nat.not_lt.mpr short), there]
      rfl
    unfold FileStore.number?
    rw [found]

/-- A chunk is made by emptying the file that has its name, or by adding a file. -/
theorem create_eq_ok (run : s.create (pathOf stem chunk) = .ok (number, q)) :
    naming.Allowed chunk ∧ ∃ folder, naming.folder s = .ok folder ∧
      (s.node? (folder ++ [naming.name chunk]) = some (.file number) ∧
          q = { s with files := s.files.setIfInBounds number #[] } ∨
        s.node? (folder ++ [naming.name chunk]) = none ∧ number = s.files.size ∧
          q = { nodes := s.nodes ++ [(folder ++ [naming.name chunk], .file number)], files := s.files.push #[] }) := by
  obtain ⟨target, located, run⟩ := bind_eq_ok_iff.mp run
  obtain ⟨parsed, folder, entered, rfl⟩ := naming.locate_eq_ok_iff.mp located
  obtain ⟨node, looked, run⟩ := bind_eq_ok_iff.mp run
  unfold FileStore.lookup at looked
  split at looked
  · cases looked
  · rename_i short
    refine ⟨⟨parsed, Nat.not_lt.mp short⟩, folder, entered, ?_⟩
    rw [Except.ok.inj looked]
    cases node with
    | none => cases run; exact Or.inr ⟨rfl, rfl, rfl⟩
    | some node =>
      cases node with
      | directory => cases run
      | file number => cases run; exact Or.inl ⟨rfl, rfl⟩

end Naming

end DumpChunk

end EventFormation
