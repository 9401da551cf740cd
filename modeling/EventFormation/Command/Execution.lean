import EventFormation.Command.Error
import EventFormation.Command.Invocation
import EventFormation.Config.Reading
import EventFormation.Dump.Summary
import EventFormation.Dump.Writer
import EventFormation.EventTable
import EventFormation.Formation.Builder
import EventFormation.Json.Printer
import EventFormation.Readout.Generator
import EventFormation.Receive.SlotBuffer

namespace EventFormation.Command

inductive Line
  | text (text : String)
  /-- So many hits were replayed, in a time that is known only once it is over. -/
  | replayed (hits : Nat)
  deriving Repr, DecidableEq

def Line.render (elapsed : String) : Line → String
  | text line => line
  | replayed hits => "Replayed " ++ toString hits ++ " hits in " ++ elapsed ++ "s"

/-- The files a command works on, and what it has printed. -/
structure Session where
  files : FileStore
  printed : List Line := []
  deriving Repr

/-- A command. What it did before it fails stays done. -/
abbrev Execution (α : Type) := ExceptT Failure (StateM Session) α

namespace Execution

def ofExcept {ε α : Type} (failure : ε → Failure) (result : Except ε α) : Execution α :=
  match result with
  | .ok value => pure value
  | .error error => throw (failure error)

def ofFault {α : Type} (result : Except Fault α) : Execution α := ofExcept .fault result

def ofIo {α : Type} (result : Except IoError α) : Execution α := ofExcept (.error ∘ .io) result

def ofConfig {α : Type} (result : Except ConfigError α) : Execution α :=
  ofExcept (.error ∘ .config) result

def say (line : Line) : Execution Unit := modify fun s => { s with printed := s.printed ++ [line] }

def files : Execution FileStore := return (← get).files

def setFiles (files : FileStore) : Execution Unit := modify fun s => { s with files }

end Execution

open Execution

def readText (s : FileStore) (path : String) : Except CommandError String :=
  match s.read path with
  | .error error => .error (.file error)
  | .ok bytes =>
    match String.fromUTF8? ⟨bytes.toArray⟩ with
    | some text => .ok text
    | none => .error .notText

namespace FormationSource

def readFile (s : FileStore) (path : String) : Except CommandError FormationConfig := do
  let text ← readText s path
  match FormationConfig.ofJson text with
  | .ok config => return config
  | .error (mistake, line, column) => throw (.json mistake line column)

/-- Replaces what is given besides the file. -/
def override (source : FormationSource) (config : FormationConfig) : FormationConfig :=
  { config with
    matching := { config.matching with
      planes := source.planes.getD config.matching.planes
      latency := source.latency.getD config.matching.latency }
    clusters :=
      { maxTimeGap := source.maxTimeGap.getD config.clusters.maxTimeGap
        maxCoordGap := source.maxCoordGap.getD config.clusters.maxCoordGap } }

/-- The configuration, which must be valid as a whole. -/
def load (source : FormationSource) (s : FileStore) : Except CommandError FormationConfig := do
  let base ← match source.file with
    | some path => readFile s path
    | none => pure {}
  let config := source.override base
  match config.check with
  | .ok () => return config
  | .error error => throw (.config error)

end FormationSource

def load (source : FormationSource) : Execution FormationConfig := do
  ofExcept .error (source.load (← files))

def verbosityLimit (verbosity : Nat) : LogLimit :=
  match verbosity with
  | 0 => ⟨some .warn⟩
  | 1 => ⟨some .info⟩
  | 2 => ⟨some .debug⟩
  | _ => ⟨some .trace⟩

/-- Applies a limit that is written as a component and a level with an equals sign between. -/
def applyLogSetting (limits : LogLimits) (setting : String) : Except CommandError LogLimits :=
  let refuse (reason : String) : Except CommandError LogLimits :=
    .error (.argument ("--log " ++ setting ++ ": " ++ reason))
  let component := setting.toList.takeWhile (· != '=')
  match setting.toList.dropWhile (· != '=') with
  | [] => refuse "expected COMPONENT=LEVEL"
  | _ :: level =>
    match limits.setNamed (String.ofList component) (String.ofList level) with
    | .ok limits => .ok limits
    | .error (.unknownLevel name) => refuse ("unknown level " ++ name)
    | .error (.unknownComponent name) => refuse ("unknown component " ++ name)

def Invocation.limits (i : Invocation) : Except CommandError LogLimits :=
  i.logSettings.foldlM applyLogSetting (LogLimits.uniform (verbosityLimit i.verbosity))

/-- What can be said of an address before there is a network. -/
def socketError (address : String) : SocketError :=
  match address.toList.reverse.span (· != ':') with
  | (_, []) => .unnumberedAddress
  | (number, _) =>
    if (Text.unsigned? 65536 (String.ofList number.reverse)).isSome then .unsupported
    else .badNumber

/-- Checks all that can be checked before there is a socket. There is no network to receive from,
so it never gets any further. -/
def listen (source : FormationSource) (receive : ReceiveConfig) : Execution Unit := do
  discard (load source)
  ofConfig receive.check
  discard (ofFault (SlotBuffer.memorySize receive.slots receive.slotSize))
  throw (.error (.socket (socketError receive.bind)))

/-- Forms events as if the hits had just come in, and prints what was done. -/
def formStreaming (config : FormationConfig) (hits : List Hit) : Execution (List ReducedEvent) := do
  let builder ← ofConfig (EventBuilder.ofConfig config)
  let (first, builder) ← ofFault (builder.push hits)
  let (last, builder) ← ofFault builder.flush
  let counters := builder.statistics.counters.map fun (name, n) => (name, Json.Content.natural n)
  say (.text (Json.Content.object counters).lines)
  return first ++ last

def formBatch (config : FormationConfig) (hits : List Hit) : Execution (List ReducedEvent) := do
  ofFault (← ofConfig (formEvents config hits))

def writeTable (path : String) (events : List ReducedEvent) : Execution Unit := do
  let (file, s) ← ofIo (((← files).create path).mapError .file)
  setFiles s
  let table ← ofFault (EventTable.empty.addAll events)
  setFiles (s.writeAt file 0 table.text.toUTF8.data)

def replay (source : FormationSource) (dump table : String) (streaming : Bool) : Execution Unit := do
  let config ← load source
  let hits ← ofIo (readDump (← files) dump)
  let events ← if streaming then formStreaming config hits else formBatch config hits
  writeTable table events
  say (.replayed hits.length)
  say (.text ("Events: " ++ toString events.length ++ " (" ++
    toString (events.countP (·.good)) ++ " good)"))

def generate (dump : String) (config : GeneratorConfig) : Execution Unit := do
  let hits ← ofFault config.hits
  let (writer, s) ← ofIo (DumpWriter.create (← files) dump DumpWriter.defaultLimit)
  let (writer, s, failure) := writer.write s hits
  setFiles (writer.flush s).2
  if let some error := failure then throw (.error (.io error))
  say (.text ("Generated " ++ toString hits.length ++ " hits for " ++ toString config.events ++
    " events in " ++ toString writer.chunks.length ++ " chunk(s)"))

/-- Reads what should be sent. There is no network to send it to either. -/
def send (dump : String) : Execution Unit := do
  discard (ofIo (readDump (← files) dump))
  throw (.error (.socket .unsupported))

def describeChunk (path : String) : Execution DumpChunk := do
  let chunk ← ofIo (DumpChunk.load (← files) path)
  say (.text chunk.line)
  return chunk

def describe (dump : String) : Execution Unit := do
  let paths := DumpChunk.paths (← files) dump
  if paths.isEmpty then say (.text ("No dump chunks found for " ++ dump))
  else
    let summary : DumpSummary := ⟨← paths.mapM describeChunk⟩
    summary.lines.forM fun line => say (.text line)

def Task.run : Task → Execution Unit
  | listen source receive => Command.listen source receive
  | replay source dump table streaming => Command.replay source dump table streaming
  | generate dump config => Command.generate dump config
  | send dump => Command.send dump
  | describe dump => Command.describe dump

/-- Runs a command. Log settings are checked first. -/
def Invocation.run (i : Invocation) : Execution Unit := do
  discard (ofExcept .error i.limits)
  i.task.run

/-- What is left when the program ends. -/
structure Outcome where
  code : Nat
  printed : List Line := []
  complaint : Option String := none
  files : FileStore
  deriving Repr

namespace Outcome

def version : String := "evform 0.3.0"

def usage : String := "Usage: evform [OPTIONS] <COMMAND>"

def ofEnding (s : FileStore) : Ending → Outcome
  | .version => { code := 0, printed := [.text version], files := s }
  | .help =>
    { code := 0, files := s
      printed := [.text usage, .text ("Commands: " ++ ", ".intercalate commandNames)] }
  | .refused => { code := 2, complaint := some usage, files := s }

/-- How the program ends after a command: with code 1 if it failed, and with 101 on a fault. -/
def ofSession (result : Except Failure Unit) (session : Session) : Outcome :=
  let outcome : Outcome := { code := 0, printed := session.printed, files := session.files }
  match result with
  | .ok () => outcome
  | .error failure =>
    let code := match failure with
      | .fault _ => 101
      | .error _ => 1
    { outcome with code, complaint := some failure.message }

def ofArguments (s : FileStore) (arguments : List String) : Outcome :=
  match Invocation.ofArguments arguments with
  | .error ending => ofEnding s ending
  | .ok i =>
    match i.run { files := s } with
    | (result, session) => ofSession result session

end Outcome

end EventFormation.Command
