import EventFormation.Text.Display

namespace EventFormation

/-- What a file system refuses. -/
inductive FileError
  | missing
  | isDirectory
  | notDirectory
  | nameTooLong
  | cannotMap
  /-- The path holds a zero, which no file system can be given. -/
  | zeroInPath
  deriving Repr, DecidableEq

def unnumberedDetails (kind text : String) : String :=
  Text.labelled "Error" [("kind", kind), ("message", Text.quoted text)]

namespace FileError

/-- The number of the error, if the file system has been asked at all. -/
def code? : FileError → Option Nat
  | missing => some 2
  | isDirectory => some 21
  | notDirectory => some 20
  | nameTooLong => some 36
  | cannotMap => some 19
  | zeroInPath => none

def text : FileError → String
  | missing => "No such file or directory"
  | isDirectory => "Is a directory"
  | notDirectory => "Not a directory"
  | nameTooLong => "File name too long"
  | cannotMap => "No such device"
  | zeroInPath => "file name contained an unexpected NUL byte"

def kind : FileError → String
  | missing => "NotFound"
  | isDirectory => "IsADirectory"
  | notDirectory => "NotADirectory"
  | nameTooLong => "InvalidFilename"
  | cannotMap => "Uncategorized"
  | zeroInPath => "InvalidInput"

def message (e : FileError) : String :=
  match e.code? with
  | some code => e.text ++ " (os error " ++ toString code ++ ")"
  | none => e.text

def details (e : FileError) : String :=
  match e.code? with
  | some code =>
    Text.labelled "Os"
      [("code", toString code), ("kind", e.kind), ("message", Text.quoted e.text)]
  | none => unnumberedDetails e.kind e.text

end FileError

end EventFormation
