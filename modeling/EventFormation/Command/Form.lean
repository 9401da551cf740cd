import EventFormation.Fault
import EventFormation.Text.Number

namespace EventFormation.Command

/-- What may be given as the value of an option. -/
inductive ValueForm
  | path
  | text
  | word
  | short
  | planes
  deriving Repr, DecidableEq

def splitCommas (text : String) : List String := text.splitOn ","

namespace ValueForm

def accepts (form : ValueForm) (value : String) : Bool :=
  match form with
  | path => !value.isEmpty
  | text => true
  | word => (Text.unsigned? wordCount value).isSome
  | short => (Text.nonNegative? 65536 value).isSome
  | planes => (splitCommas value).all fun part => (Text.nonNegative? 256 part).isSome

end ValueForm

inductive OptionRole
  | help
  | version
  | /-- May be repeated. -/ count
  | /-- May be given once. -/ flag
  | /-- Takes a value, and may be given once. -/ single (form : ValueForm)
  | /-- Takes a value, and may be repeated. -/ many (form : ValueForm)
  deriving Repr, DecidableEq

structure OptionForm where
  name : String
  short : Option Char := none
  role : OptionRole
  deriving Repr, DecidableEq

/-- What may follow the name of a command. -/
structure CommandForm where
  options : List OptionForm
  required : List String := []
  /-- Whether exactly one path is given that belongs to no option. -/
  operand : Bool := false
  commands : List String := []
  deriving Repr

/-- What was given: options in their order with their values, and the operand. -/
structure Given where
  options : List (String × String) := []
  operand : Option String := none
  deriving Repr, DecidableEq

/-- Why there is no command to be run. -/
inductive Ending
  | refused
  | help
  | version
  deriving Repr, DecidableEq

/-- How far the arguments have been read. -/
structure Reading where
  given : Given := {}
  /-- The option whose value comes next. -/
  pending : Option OptionForm := none
  /-- Only operands follow. -/
  escaped : Bool := false
  deriving Repr

namespace Given

def value? (g : Given) (name : String) : Option String := (g.options.find? (·.1 == name)).map (·.2)

def values (g : Given) (name : String) : List String :=
  (g.options.filter (·.1 == name)).map (·.2)

def has (g : Given) (name : String) : Bool := g.options.any (·.1 == name)

def add (g : Given) (name value : String) : Given := { g with options := g.options ++ [(name, value)] }

def addPlain (g : Given) (option : OptionForm) : Except Ending Given :=
  match option.role with
  | .help => .error .help
  | .version => .error .version
  | .count => .ok (g.add option.name "")
  | .flag => if g.has option.name then .error .refused else .ok (g.add option.name "")
  | .single _ | .many _ => .error .refused

def addValue (g : Given) (option : OptionForm) (value : String) : Except Ending Given :=
  match option.role with
  | .single form =>
    if !form.accepts value || g.has option.name then .error .refused
    else .ok (g.add option.name value)
  | .many form => if form.accepts value then .ok (g.add option.name value) else .error .refused
  | _ => .error .refused

end Given

def OptionForm.takesValue (option : OptionForm) : Bool :=
  match option.role with
  | .single _ | .many _ => true
  | _ => false

namespace Reading

/-- Reads an option by its long name. The value may follow an equals sign. -/
def readLong (form : CommandForm) (r : Reading) (text : String) : Except Ending Reading := do
  let chars := text.toList
  let name := String.ofList (chars.takeWhile (· != '='))
  match form.options.find? (·.name == name), chars.dropWhile (· != '=') with
  | none, _ => throw .refused
  | some option, _ :: value => return { r with given := ← r.given.addValue option (String.ofList value) }
  | some option, [] =>
    if option.takesValue then return { r with pending := some option }
    else return { r with given := ← r.given.addPlain option }

/-- Reads options by their letters. What follows the letter of an option that takes a value is
its value, an equals sign before it aside. -/
def readLetters (form : CommandForm) : Reading → List Char → Except Ending Reading
  | r, [] => .ok r
  | r, letter :: rest =>
    match form.options.find? (·.short == some letter) with
    | none => .error .refused
    | some option =>
      if option.takesValue then
        match rest with
        | [] => .ok { r with pending := some option }
        | '=' :: value => return { r with given := ← r.given.addValue option (String.ofList value) }
        | value => return { r with given := ← r.given.addValue option (String.ofList value) }
      else do readLetters form { r with given := ← r.given.addPlain option } rest

def readOperand (form : CommandForm) (r : Reading) (text : String) : Except Ending Reading :=
  if r.pending.isSome || !form.operand || r.given.operand.isSome || text.isEmpty then .error .refused
  else .ok { r with given := { r.given with operand := some text } }

def read (form : CommandForm) (r : Reading) (argument : String) : Except Ending Reading :=
  if r.escaped then r.readOperand form argument
  else
    match argument.toList, r.pending with
    | '-' :: _ :: _, some _ => .error .refused
    | _, some option => do return { r with pending := none, given := ← r.given.addValue option argument }
    | ['-', '-'], none => .ok { r with escaped := true }
    | '-' :: '-' :: name, none => r.readLong form (String.ofList name)
    | '-' :: letter :: letters, none => r.readLetters form (letter :: letters)
    | _, none => r.readOperand form argument

/-- Reads arguments up to the name of another command. Returns it with the arguments after it. -/
def readAll (form : CommandForm) : Reading → List String → Except Ending (Reading × List String)
  | r, [] => .ok (r, [])
  | r, argument :: rest =>
    if !r.escaped && r.pending.isNone && form.commands.contains argument then
      .ok (r, argument :: rest)
    else do readAll form (← r.read form argument) rest

end Reading

/-- What is given to a command, all that is required included. Returns also the arguments from
the name of another command on. -/
def CommandForm.read (form : CommandForm) (arguments : List String) :
    Except Ending (Given × List String) := do
  let (r, rest) ← Reading.readAll form {} arguments
  if r.pending.isSome || !form.required.all r.given.has || form.operand && r.given.operand.isNone then
    throw .refused
  return (r.given, rest)

end EventFormation.Command
