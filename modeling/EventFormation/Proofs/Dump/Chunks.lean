import EventFormation.Proofs.Dump.Naming

namespace EventFormation.DumpChunk

/-- The bytes of a chunk, if it is there. -/
def content? (s : FileStore) (stem : String) (chunk : Nat) : Option (List UInt8) :=
  (s.number? (pathOf stem chunk)).map s.bytes

/-- No chunk of a dump shares its file with another one. -/
def Apart (s : FileStore) (stem : String) : Prop :=
  ∀ i number, s.number? (pathOf stem i) = some number →
    number < s.files.size ∧ ∀ j, s.number? (pathOf stem j) = some number → j = i

/-- A store in which a chunk was made. -/
structure Created (s : FileStore) (stem : String) (chunk number : Nat) (q : FileStore) : Prop where
  there : q.number? (pathOf stem chunk) = some number
  inside : number < q.files.size
  blank : q.bytes number = []
  apart : Apart q stem
  names : ∀ other ≠ chunk, q.number? (pathOf stem other) = s.number? (pathOf stem other)
  kept : ∀ other < s.files.size, other ≠ number → q.bytes other = s.bytes other

variable {s q r : FileStore} {stem : String} {chunk number : Nat}

theorem Apart.of_none (none : ∀ i, s.isFile (pathOf stem i) = false) : Apart s stem := by
  intro i number there
  have file := none i
  rw [FileStore.isFile_eq, there] at file
  cases file

theorem Apart.rewritten (apart : Apart s stem) (rewritten : FileStore.Rewritten number s q) : Apart q stem := by
  intro i number there
  rw [rewritten.number?_eq] at there
  obtain ⟨inside, own⟩ := apart i number there
  refine ⟨rewritten.size ▸ inside, fun j same => ?_⟩
  rw [rewritten.number?_eq] at same
  exact own j same

/-- Emptying the file of a chunk changes no other chunk. -/
theorem created_of_emptied (apart : Apart s stem) (there : s.number? (pathOf stem chunk) = some number) :
    Created s stem chunk number { s with files := s.files.setIfInBounds number #[] } := by
  obtain ⟨inside, _⟩ := apart chunk number there
  have rewritten : FileStore.Rewritten number s { s with files := s.files.setIfInBounds number #[] } := by
    refine ⟨rfl, Array.size_setIfInBounds, fun other different => ?_⟩
    simp only [FileStore.bytes, Array.getD_eq_getD_getElem?, Array.getElem?_setIfInBounds_ne different.symm]
  refine ⟨there, rewritten.size ▸ inside, ?_, apart.rewritten rewritten, fun other _ => rewritten.number?_eq _,
    fun other _ => rewritten.others other⟩
  simp [FileStore.bytes, inside]

/-- A chunk that was not there gets a file that no other chunk has. -/
theorem created_of_added (naming : Naming stem) (apart : Apart s stem) (allowed : naming.Allowed chunk)
    {folder : NodePath} (entered : naming.folder s = .ok folder)
    (new : s.node? (folder ++ [naming.name chunk]) = none)
    (grown : q.nodes = s.nodes ++ [(folder ++ [naming.name chunk], .file s.files.size)])
    (files : q.files = s.files.push #[]) : Created s stem chunk s.files.size q := by
  have enters : naming.folder q = .ok folder := FileStore.enterAll_of_nodes grown entered
  have there : q.number? (pathOf stem chunk) = some s.files.size :=
    naming.number?_eq_some_iff.mpr ⟨allowed, folder, enters, FileStore.node?_of_added grown (by simp) new⟩
  have names (other : Nat) (different : other ≠ chunk) :
      q.number? (pathOf stem other) = s.number? (pathOf stem other) := by
    have node : q.node? (folder ++ [naming.name other]) = s.node? (folder ++ [naming.name other]) := by
      refine FileStore.node?_of_other grown fun path => different ?_
      have name := List.append_cancel_left path
      exact (naming.distinct chunk other (List.cons.inj name).1).symm
    ext number
    rw [naming.number?_eq_some_iff, naming.number?_eq_some_iff, enters, entered]
    simp only [Except.ok.injEq, exists_eq_left', node]
  refine ⟨there, by simp [files], by simp [FileStore.bytes, files], fun i number found => ?_, names, ?_⟩
  · by_cases this : i = chunk
    · subst this
      rw [there] at found
      cases found
      refine ⟨by simp [files], fun j file => ?_⟩
      by_contra different
      rw [names j different] at file
      exact absurd (apart j _ file).1 (Nat.lt_irrefl _)
    · rw [names i this] at found
      obtain ⟨inside, own⟩ := apart i number found
      refine ⟨by rw [files, Array.size_push]; omega, fun j file => ?_⟩
      by_cases that : j = chunk
      · subst that
        rw [there] at file
        cases file
        exact absurd inside (Nat.lt_irrefl _)
      · rw [names j that] at file
        exact own j file
  · intro other inside _
    simp only [FileStore.bytes, files, Array.getD_eq_getD_getElem?, Array.getElem?_push, Nat.ne_of_lt inside,
      if_false]

theorem create_created (apart : Apart s stem) (run : s.create (pathOf stem chunk) = .ok (number, q)) :
    Created s stem chunk number q := by
  obtain ⟨naming⟩ := exists_naming stem
  obtain ⟨allowed, folder, entered, ⟨there, rfl⟩ | ⟨new, rfl, rfl⟩⟩ := naming.create_eq_ok run
  · exact created_of_emptied apart (naming.number?_eq_some_iff.mpr ⟨allowed, folder, entered, there⟩)
  · exact created_of_added naming apart allowed entered new rfl rfl

theorem Created.content?_of_ne (created : Created s stem chunk number q) (apart : Apart s stem) {other : Nat}
    (different : other ≠ chunk) : content? q stem other = content? s stem other := by
  unfold content?
  rw [created.names other different]
  cases file : s.number? (pathOf stem other) with
  | none => rfl
  | some found =>
    have same : found ≠ number := by
      rintro rfl
      exact different ((created.apart chunk found created.there).2 other ((created.names other different).trans file))
    exact congrArg some (created.kept found (apart other found file).1 same)

/-- Rewriting one chunk changes no other. -/
theorem content?_of_rewritten (apart : Apart s stem) (there : s.number? (pathOf stem chunk) = some number)
    (rewritten : FileStore.Rewritten number s q) {other : Nat} (different : other ≠ chunk) :
    content? q stem other = content? s stem other := by
  unfold content?
  rw [rewritten.number?_eq]
  cases file : s.number? (pathOf stem other) with
  | none => rfl
  | some found =>
    have same : found ≠ number := by
      rintro rfl
      exact different ((apart chunk found there).2 other file)
    exact congrArg some (rewritten.others found same)

end EventFormation.DumpChunk
