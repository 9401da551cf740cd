import EventFormation.Files.Path

namespace EventFormation

/-- What a path leads to. A file keeps its number under any name. -/
inductive FileNode
  | directory
  | file (number : Nat)
  deriving Repr, DecidableEq

/-- A tree of directories and files. The bytes of a file outlive its name, so a writer that has
it open never notices that it was removed. -/
structure FileStore where
  nodes : List (NodePath × FileNode) := [(["tmp"], .directory), (NodePath.home, .directory)]
  files : Array (Array UInt8) := #[]
  deriving Repr

/-- Writes bytes at a position. A gap before them is filled with zeros. -/
def overwrite (old : Array UInt8) (position : Nat) (data : Array UInt8) : Array UInt8 :=
  if position = old.size then old ++ data
  else if data.isEmpty then old
  else
    old.extract 0 position ++ Array.replicate (position - old.size) 0 ++ data ++
      old.extract (position + data.size) old.size

@[simp] theorem overwrite_size (old data : Array UInt8) :
    overwrite old old.size data = old ++ data := by
  simp [overwrite]

namespace FileStore

def node? (s : FileStore) (path : NodePath) : Option FileNode :=
  if path.isEmpty then some .directory else (s.nodes.find? (·.1 == path)).map (·.2)

def lookup (s : FileStore) (directory : NodePath) (name : String) :
    Except FileError (Option FileNode) :=
  if WrittenPath.longestName < name.utf8ByteSize then .error .nameTooLong
  else .ok (s.node? (directory ++ [name]))

def enter (s : FileStore) (directory : NodePath) (name : String) : Except FileError NodePath := do
  if name == "." || name == ".." then return WrittenPath.goOn directory name
  match ← s.lookup directory name with
  | some .directory => return directory ++ [name]
  | some (.file _) => throw .notDirectory
  | none => throw .missing

/-- Where a path leads: to a directory in any case, or to a name in one. -/
inductive Target
  | directory
  | entry (directory : NodePath) (name : String) (slashed : Bool)

def locate (s : FileStore) (text : String) : Except FileError Target := do
  let path ← WrittenPath.parse text
  let directory ← path.names.dropLast.foldlM s.enter path.start
  match path.names.getLast? with
  | none | some "." | some ".." => return .directory
  | some name => return .entry directory name path.slashed

def find (s : FileStore) (text : String) : Except FileError FileNode := do
  match ← s.locate text with
  | .directory => return .directory
  | .entry directory name slashed =>
    match ← s.lookup directory name with
    | none => throw .missing
    | some .directory => return .directory
    | some (.file number) => if slashed then throw .notDirectory else return .file number

def bytes (s : FileStore) (number : Nat) : List UInt8 := (s.files.getD number #[]).toList

def read (s : FileStore) (text : String) : Except FileError (List UInt8) := do
  match ← s.find text with
  | .file number => return s.bytes number
  | .directory => throw .isDirectory

/-- Reads a file as one block of memory. -/
def map (s : FileStore) (text : String) : Except FileError (List UInt8) := do
  match ← s.find text with
  | .file number => return s.bytes number
  | .directory => throw .cannotMap

def isFile (s : FileStore) (text : String) : Bool :=
  match s.find text with
  | .ok (.file _) => true
  | _ => false

/-- Makes an empty file, or empties the one that is there. Returns its number. A path with a slash
at its end is refused before anything is looked up. -/
def create (s : FileStore) (text : String) : Except FileError (Nat × FileStore) := do
  match ← s.locate text with
  | .directory | .entry _ _ true => throw .isDirectory
  | .entry directory name false =>
    match ← s.lookup directory name with
    | some .directory => throw .isDirectory
    | some (.file number) => return (number, { s with files := s.files.setIfInBounds number #[] })
    | none =>
      let number := s.files.size
      return (number,
        { nodes := s.nodes ++ [(directory ++ [name], .file number)], files := s.files.push #[] })

def writeAt (s : FileStore) (number position : Nat) (data : Array UInt8) : FileStore :=
  { s with files := s.files.modify number (overwrite · position data) }

/-- Adds the directories on the way along some names that are missing. -/
def addDirectories (s : FileStore) : NodePath → List String → FileStore
  | _, [] => s
  | path, name :: rest =>
    let path := WrittenPath.goOn path name
    let s := if (s.node? path).isNone then { s with nodes := s.nodes ++ [(path, .directory)] } else s
    addDirectories s path rest

def makeDirectory (s : FileStore) (text : String) : FileStore :=
  let path := WrittenPath.ofString text
  s.addDirectories path.start path.names

def put (s : FileStore) (text : String) (data : List UInt8) : FileStore :=
  let path := WrittenPath.ofString text
  let s := s.addDirectories path.start path.names.dropLast
  match s.create text with
  | .ok (number, s) => s.writeAt number 0 data.toArray
  | .error _ => s

def remove (s : FileStore) (text : String) : FileStore :=
  let path := (WrittenPath.ofString text).destination
  { s with nodes := s.nodes.filter fun entry => !path.isPrefixOf entry.1 }

def allFiles (s : FileStore) : List (String × List UInt8) :=
  s.nodes.filterMap fun entry =>
    match entry.2 with
    | .directory => none
    | .file number =>
      if NodePath.home.isPrefixOf entry.1 then
        some ("/".intercalate (entry.1.drop NodePath.home.length), s.bytes number)
      else none

end FileStore

end EventFormation
