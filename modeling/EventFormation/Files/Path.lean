import EventFormation.Files.Error

namespace EventFormation

/-- The names from the root to a file. -/
abbrev NodePath := List String

def NodePath.home : NodePath := ["tmp", "work"]

/-- A path as it is written. The names may be single dots, for the directory itself, and double
dots, for the one around it. -/
structure WrittenPath where
  names : List String
  /-- It starts with a slash, hence at the root. -/
  rooted : Bool
  /-- It ends with a slash, hence should be a directory. -/
  slashed : Bool
  deriving Repr

namespace WrittenPath

def splitSlashes : List Char → List (List Char)
  | [] => [[]]
  | c :: rest =>
    match splitSlashes rest with
    | [] => [[c]]
    | name :: names => if c = '/' then [] :: name :: names else (c :: name) :: names

def ofString (text : String) : WrittenPath :=
  let parts := (splitSlashes text.toList).map String.ofList
  { names := parts.filter (· != "")
    rooted := text.toList.head? = some '/'
    slashed := parts.getLast? == some "" }

def longestPath : Nat := 4095

def longestName : Nat := 255

/-- The path that a text writes. Its names are not looked at. -/
def parse (text : String) : Except FileError WrittenPath :=
  if text.toList.contains '\x00' then .error .zeroInPath
  else if text.isEmpty then .error .missing
  else if longestPath < text.utf8ByteSize then .error .nameTooLong
  else .ok (ofString text)

def start (p : WrittenPath) : NodePath := if p.rooted then [] else NodePath.home

def goOn (path : NodePath) (name : String) : NodePath :=
  if name == "." then path else if name == ".." then path.dropLast else path ++ [name]

/-- Where the path would lead if every name in it were a directory. -/
def destination (p : WrittenPath) : NodePath := p.names.foldl goOn p.start

end WrittenPath

end EventFormation
