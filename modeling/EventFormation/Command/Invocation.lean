import EventFormation.Command.Form
import EventFormation.Config.Basic

namespace EventFormation.Command

/-- Where a formation is configured: in a file, and by settings that come before it. -/
structure FormationSource where
  file : Option String := none
  planes : Option (List UInt8) := none
  maxTimeGap : Option UInt64 := none
  maxCoordGap : Option UInt16 := none
  latency : Option UInt64 := none
  deriving Repr, DecidableEq

/-- What the program is to do. Of tasks that need a network only what is checked before it is
reached is kept. -/
inductive Task
  | listen (formation : FormationSource) (receive : ReceiveConfig)
  | replay (formation : FormationSource) (dump table : String) (streaming : Bool)
  | generate (dump : String) (config : GeneratorConfig)
  | send (dump : String)
  | describe (dump : String)
  deriving Repr, DecidableEq

structure Invocation where
  verbosity : Nat
  logSettings : List String
  task : Task
  deriving Repr, DecidableEq

namespace Given

def number? (g : Given) (name : String) : Option Nat :=
  (g.value? name).bind (Text.nonNegative? wordCount)

def numberD (g : Given) (name : String) (default : Nat) : Nat := (g.number? name).getD default

def planes? (g : Given) (name : String) : Option (List UInt8) :=
  match g.values name with
  | [] => none
  | values =>
    some ((values.flatMap splitCommas).map fun plane =>
      .ofNat ((Text.nonNegative? 256 plane).getD 0))

def formation (g : Given) : FormationSource :=
  { file := g.value? "config", planes := g.planes? "planes"
    maxTimeGap := (g.number? "max-time-gap").map .ofNat
    maxCoordGap := (g.number? "max-coord-gap").map .ofNat
    latency := (g.number? "latency").map .ofNat }

def receive (g : Given) : ReceiveConfig :=
  let default : ReceiveConfig := {}
  { bind := (g.value? "bind").getD default.bind
    slots := g.numberD "slots" default.slots
    slotSize := g.numberD "slot-size" default.slotSize
    timeoutMs := .ofNat (g.numberD "timeout-ms" default.timeoutMs.toNat)
    shutdown := if g.has "immediate" then .immediate else .drain }

def generator (g : Given) : GeneratorConfig :=
  let default : GeneratorConfig := {}
  { default with
    planes := (g.planes? "planes").getD default.planes
    events := g.numberD "events" default.events
    spacing := .ofNat (g.numberD "spacing" default.spacing.toNat)
    trackLength := .ofNat (g.numberD "track-length" default.trackLength.toNat)
    seed := .ofNat (g.numberD "seed" default.seed.toNat) }

def dump (g : Given) : String := g.operand.getD ""

end Given

/-- A command by its name: what may follow it, and what it asks for. -/
structure NamedCommand where
  name : String
  form : CommandForm
  task : Given → Task

def generalOptions : List OptionForm :=
  [{ name := "help", short := some 'h', role := .help },
   { name := "verbose", short := some 'v', role := .count },
   { name := "log", role := .many .text }]

def formationOptions : List OptionForm :=
  [{ name := "config", short := some 'c', role := .single .path },
   { name := "planes", role := .many .planes },
   { name := "max-time-gap", role := .single .word },
   { name := "max-coord-gap", role := .single .short },
   { name := "latency", role := .single .word }]

def tableOption : OptionForm := { name := "output", short := some 'o', role := .single .path }

def listenForm : CommandForm :=
  { options := generalOptions ++ formationOptions ++
      [{ name := "bind", short := some 'b', role := .single .text },
       { name := "slots", role := .single .word },
       { name := "slot-size", role := .single .word },
       { name := "timeout-ms", role := .single .word },
       { name := "duration", short := some 'd', role := .single .word },
       { name := "immediate", role := .flag },
       tableOption,
       { name := "dump", role := .single .path }]
    required := [tableOption.name] }

def replayForm : CommandForm :=
  { options := generalOptions ++ formationOptions ++
      [tableOption, { name := "streaming", role := .flag }]
    required := [tableOption.name]
    operand := true }

def generateForm : CommandForm :=
  { options := generalOptions ++
      [{ name := "events", short := some 'e', role := .single .word },
       { name := "planes", role := .many .planes },
       { name := "spacing", role := .single .word },
       { name := "track-length", role := .single .short },
       { name := "seed", role := .single .word }]
    operand := true }

def sendForm : CommandForm :=
  { options := generalOptions ++
      [{ name := "target", short := some 't', role := .single .text },
       { name := "datagram-size", role := .single .word },
       { name := "pause-us", role := .single .word }]
    operand := true }

def infoForm : CommandForm := { options := generalOptions, operand := true }

def commands : List NamedCommand :=
  [⟨"listen", listenForm, fun g => .listen g.formation g.receive⟩,
   ⟨"replay", replayForm, fun g =>
      .replay g.formation g.dump ((g.value? tableOption.name).getD "") (g.has "streaming")⟩,
   ⟨"generate", generateForm, fun g => .generate g.dump g.generator⟩,
   ⟨"send", sendForm, fun g => .send g.dump⟩,
   ⟨"info", infoForm, fun g => .describe g.dump⟩]

def helpName : String := "help"

def commandNames : List String := commands.map (·.name) ++ [helpName]

/-- What may come before the name of a command. -/
def programForm : CommandForm :=
  { options := generalOptions ++ [{ name := "version", short := some 'V', role := .version }]
    commands := commandNames }

def helpEnding (topics : List String) : Ending :=
  match topics with
  | [] => .help
  | [topic] => if commandNames.contains topic then .help else .refused
  | _ => .refused

/-- The call that arguments make. A general option after the name of the command replaces what
was given for it before. -/
def Invocation.ofArguments (arguments : List String) : Except Ending Invocation := do
  match ← programForm.read arguments with
  | (_, []) => throw .refused
  | (general, name :: rest) =>
    match commands.find? (·.name == name) with
    | none => throw (helpEnding rest)
    | some command =>
      let (given, _) ← command.form.read rest
      let values name := if given.has name then given.values name else general.values name
      return { verbosity := (values "verbose").length, logSettings := values "log"
               task := command.task given }

end EventFormation.Command
