import EventFormation.Files.OpenFile
import EventFormation.Proofs.Fault

namespace EventFormation

namespace FileStore

/-- The number of the file that a path leads to, if it leads to one. -/
def number? (s : FileStore) (text : String) : Option Nat :=
  match s.find text with
  | .ok (.file number) => some number
  | _ => none

variable {s q r : FileStore} {text name : String} {number other : Nat} {path folder next : NodePath} {node : FileNode}
  {more : List (NodePath × FileNode)} {names : List String}

theorem isFile_eq : s.isFile text = (s.number? text).isSome := by
  unfold isFile number?
  cases s.find text with
  | error reason => rfl
  | ok node => cases node <;> rfl

theorem map_eq_of_number? (there : s.number? text = some number) : s.map text = .ok (s.bytes number) := by
  unfold number? at there
  split at there
  · rename_i found
    cases there
    unfold map
    rw [found]
    rfl
  · cases there

theorem mem_nodes_of_file (there : s.node? path = some (.file number)) : (path, .file number) ∈ s.nodes := by
  unfold node? at there
  split at there
  · cases there
  · obtain ⟨entry, found, file⟩ := Option.map_eq_some_iff.mp there
    have own : (entry.1 == path) = true := by simpa using List.find?_some found
    rw [← eq_of_beq own, ← file]
    exact List.mem_of_find?_eq_some found

theorem node?_of_nodes (grown : q.nodes = s.nodes ++ more) (there : s.node? path = some node) :
    q.node? path = some node := by
  unfold node? at there ⊢
  split
  · rename_i root
    rwa [if_pos root] at there
  · rename_i named
    rw [if_neg named, Option.map_eq_some_iff] at there
    obtain ⟨entry, found, rfl⟩ := there
    rw [grown, List.find?_append, found]
    rfl

theorem node?_of_added (grown : q.nodes = s.nodes ++ [(path, node)]) (named : path ≠ []) (new : s.node? path = none) :
    q.node? path = some node := by
  have entry : path.isEmpty = false := by simpa using named
  unfold node? at new ⊢
  rw [entry] at new ⊢
  have none := Option.map_eq_none_iff.mp new
  rw [grown, List.find?_append, none]
  simp

theorem node?_of_other {other : NodePath} (grown : q.nodes = s.nodes ++ [(path, node)]) (apart : path ≠ other) :
    q.node? other = s.node? other := by
  unfold node?
  rw [grown, List.find?_append]
  simp [apart]

/-- A directory that can be entered is still there when there are more names. -/
theorem enter_of_nodes (grown : q.nodes = s.nodes ++ more) (run : s.enter folder name = .ok next) :
    q.enter folder name = .ok next := by
  unfold enter at run ⊢
  split
  · rename_i dots
    rwa [if_pos dots] at run
  · rename_i named
    rw [if_neg named] at run
    obtain ⟨node, looked, run⟩ := bind_eq_ok_iff.mp run
    unfold lookup at looked ⊢
    split
    · rename_i long
      rw [if_pos long] at looked
      cases looked
    · rename_i short
      rw [if_neg short] at looked
      cases node with
      | none => cases run
      | some node =>
        have there : s.node? (folder ++ [name]) = some node := Except.ok.inj looked
        rw [node?_of_nodes grown there]
        exact run

theorem enterAll_of_nodes (grown : q.nodes = s.nodes ++ more) (run : names.foldlM s.enter folder = .ok next) :
    names.foldlM q.enter folder = .ok next := by
  induction names generalizing folder with
  | nil => exact run
  | cons name rest ih =>
    rw [List.foldlM_cons] at run ⊢
    obtain ⟨middle, entered, run⟩ := bind_eq_ok_iff.mp run
    rw [enter_of_nodes grown entered]
    exact ih run

/-- Two stores that differ in nothing but the bytes of one file. -/
structure Rewritten (number : Nat) (s q : FileStore) : Prop where
  nodes : q.nodes = s.nodes
  size : q.files.size = s.files.size
  others : ∀ other ≠ number, q.bytes other = s.bytes other

theorem Rewritten.refl (number : Nat) (s : FileStore) : Rewritten number s s := ⟨rfl, rfl, fun _ _ => rfl⟩

theorem Rewritten.number?_eq (rewritten : Rewritten number s q) (text : String) :
    q.number? text = s.number? text := by
  obtain ⟨nodes, files⟩ := s
  obtain ⟨nodes', files'⟩ := q
  obtain rfl : nodes' = nodes := rewritten.nodes
  rfl

theorem writeAt_rewritten (s : FileStore) (number position : Nat) (data : Array UInt8) :
    Rewritten number s (s.writeAt number position data) where
  nodes := rfl
  size := Array.size_modify
  others other apart := by
    simp only [bytes, writeAt, Array.getD_eq_getD_getElem?, Array.getElem?_modify, if_neg apart.symm]

/-- Bytes that are written at the end are added. -/
theorem bytes_writeAt {data : Array UInt8} (inside : number < s.files.size) :
    (s.writeAt number (s.bytes number).length data).bytes number = s.bytes number ++ data.toList := by
  obtain ⟨content, there⟩ : ∃ content, s.files[number]? = some content := ⟨_, Array.getElem?_eq_getElem inside⟩
  have old : s.bytes number = content.toList := by rw [bytes, Array.getD_eq_getD_getElem?, there, Option.getD_some]
  rw [old]
  simp only [bytes, writeAt, Array.getD_eq_getD_getElem?, Array.getElem?_modify, if_pos, there, Option.map_some,
    Option.getD_some, Array.length_toList, overwrite_size, Array.toList_append]

end FileStore

namespace OpenFile

open FileStore (Rewritten)

variable {f : OpenFile} {s q : FileStore} {content data : List UInt8}

/-- With what waits to be written, the file holds these bytes. -/
structure Holds (s : FileStore) (f : OpenFile) (content : List UInt8) : Prop where
  inside : f.number < s.files.size
  position : f.position = (s.bytes f.number).length
  content : s.bytes f.number ++ f.waiting.toList = content

theorem Holds.flush (holds : f.Holds s content) :
    (f.flush s).1.Holds (f.flush s).2 content ∧ (f.flush s).2.bytes f.number = content := by
  have all : (f.flush s).2.bytes f.number = content := by
    rw [← holds.content]
    unfold OpenFile.flush
    rw [holds.position]
    exact FileStore.bytes_writeAt holds.inside
  have size : (f.flush s).2.files.size = s.files.size := (FileStore.writeAt_rewritten ..).size
  refine ⟨⟨size ▸ holds.inside, ?_, ?_⟩, all⟩
  · rw [show (f.flush s).1.number = f.number from rfl, all, ← holds.content, List.length_append, ← holds.position,
      Array.length_toList]
    rfl
  · rw [show (f.flush s).1.number = f.number from rfl, all]
    exact List.append_nil _

theorem flush_rewritten (f : OpenFile) (s : FileStore) :
    (f.flush s).1.number = f.number ∧ Rewritten f.number s (f.flush s).2 := ⟨rfl, FileStore.writeAt_rewritten ..⟩

theorem Holds.write (holds : f.Holds s content) (data : List UInt8) :
    (f.write s data).1.Holds (f.write s data).2 (content ++ data) := by
  unfold OpenFile.write
  split
  · refine ⟨holds.inside, holds.position, ?_⟩
    rw [← holds.content, List.append_assoc]
    simp
  · obtain ⟨flushed, all⟩ := holds.flush
    refine ⟨flushed.inside, flushed.position, ?_⟩
    show (f.flush s).2.bytes f.number ++ _ = _
    rw [all]

theorem write_rewritten (f : OpenFile) (s : FileStore) (data : List UInt8) :
    (f.write s data).1.number = f.number ∧ Rewritten f.number s (f.write s data).2 := by
  unfold OpenFile.write
  split
  · exact ⟨rfl, .refl f.number s⟩
  · exact f.flush_rewritten s

end OpenFile

end EventFormation
