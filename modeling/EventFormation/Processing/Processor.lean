import EventFormation.Dump.Writer
import EventFormation.EventTable
import EventFormation.Processing.Statistics
import EventFormation.Receive.Channel

namespace EventFormation

/-- Why processing ends early. -/
inductive Stop (ε : Type)
  | fault (fault : Fault)
  | /-- The events could not be delivered. -/ sink (error : ε)
  deriving Repr

/-- Takes reduced events. A refused event leaves it as it was. -/
class EventSink (σ : Type) (ε : outParam Type) where
  publish : σ → ReducedEvent → Except (Stop ε) σ
  flush : σ → Except ε σ

/-- Keeps all hits, with the help of files or whatever else `ω` is. -/
class HitRecorder (δ ω : Type) where
  write : δ → ω → List Hit → δ × ω × Option IoError
  /-- Ends the record. Returns the number of its parts. -/
  finish : δ → ω → ω × Except IoError Nat
  writeLog : δ → ω → List Hit → List LogRecord

instance : EventSink (List ReducedEvent) Empty where
  publish events event := .ok (events ++ [event])
  flush events := .ok events

instance : EventSink EventTable Empty where
  publish table event := (table.add event).mapError .fault
  flush table := .ok table

instance : HitRecorder DumpWriter FileStore where
  write := DumpWriter.write
  finish writer store := ((writer.flush store).2, .ok writer.chunks.length)
  writeLog writer store hits := writer.writeLog (writer.write store hits).1

/-- Forms events from the datagrams of a channel and publishes them. -/
structure Processor (σ δ ω : Type) where
  channel : Channel
  builder : EventBuilder
  sink : σ
  /-- The record of all hits. There is none any more after its first failure. -/
  dump : Option δ
  files : ω
  statistics : ReceiveStatistics := {}

namespace Processor

variable {σ δ ω ε : Type} [EventSink σ ε] [HitRecorder δ ω]

def countErrors (p : Processor σ δ ω) (errors : Nat) : Processor σ δ ω :=
  { p with statistics := { p.statistics with readoutErrors := p.statistics.readoutErrors + errors } }

def countDumpError (p : Processor σ δ ω) : Processor σ δ ω :=
  { p with statistics := { p.statistics with dumpErrors := p.statistics.dumpErrors + 1 } }

def countEmptyPoll (p : Processor σ δ ω) : Processor σ δ ω :=
  { p with statistics := { p.statistics with emptyPolls := p.statistics.emptyPolls + 1 } }

/-- Writes hits to the dump. If that fails there is no dump any more, and formation goes on. -/
def record (p : Processor σ δ ω) (hits : List Hit) : Processor σ δ ω :=
  match p.dump with
  | none => p
  | some dump =>
    match HitRecorder.write dump p.files hits with
    | (dump, files, none) => { p with dump := some dump, files }
    | (_, files, some _) => { p with dump := none, files }.countDumpError

/-- Publishes events up to the first failure. -/
def publishTo (sink : σ) : List ReducedEvent → σ × Except (Stop ε) Unit
  | [] => (sink, .ok ())
  | event :: rest =>
    match EventSink.publish sink event with
    | .ok sink => publishTo sink rest
    | .error stop => (sink, .error stop)

/-- Publishes events, and counts them if all of them could be delivered. -/
def publish (p : Processor σ δ ω) (events : List ReducedEvent) :
    Processor σ δ ω × Except (Stop ε) Unit :=
  match publishTo p.sink events with
  | (sink, .ok ()) =>
    ({ p with sink, statistics := p.statistics.adopt p.builder.statistics }, .ok ())
  | (sink, .error stop) => ({ p with sink }, .error stop)

def handle (p : Processor σ δ ω) (datagram : Datagram) : Processor σ δ ω × Except (Stop ε) Unit :=
  let (hits, report) := parseDatagram datagram.data
  let p := (p.countErrors report.errors).record hits
  match p.builder.push hits with
  | .error fault => (p, .error (.fault fault))
  | .ok (events, builder) => { p with builder }.publish events

def step (p : Processor σ δ ω) : Processor σ δ ω × Except (Stop ε) Bool :=
  match p.channel.pop with
  | none => (p, .ok false)
  | some (datagram, channel) =>
    match { p with channel }.handle datagram with
    | (p, .ok ()) => (p, .ok true)
    | (p, .error stop) => (p, .error stop)

def poll : Nat → Processor σ δ ω → Processor σ δ ω × Except (Stop ε) Unit
  | 0, p => (p, .ok ())
  | polls + 1, p =>
    match p.step with
    | (p, .error stop) => (p, .error stop)
    | (p, .ok true) => poll polls p
    | (p, .ok false) => poll polls p.countEmptyPoll

/-- Handles datagrams until none is queued, and returns their number. -/
def drainWithin : Nat → Processor σ δ ω → Processor σ δ ω × Except (Stop ε) Nat
  | 0, p => (p, .ok 0)
  | fuel + 1, p =>
    match p.step with
    | (p, .error stop) => (p, .error stop)
    | (p, .ok false) => (p, .ok 0)
    | (p, .ok true) =>
      match drainWithin fuel p with
      | (p, .ok count) => (p, .ok (count + 1))
      | (p, .error stop) => (p, .error stop)

def drain (p : Processor σ δ ω) : Processor σ δ ω × Except (Stop ε) Nat :=
  drainWithin (p.channel.queued + 1) p

/-- Polls so many times until the stop request is seen. What is still queued then is handled
or left, as `mode` says. -/
def run (p : Processor σ δ ω) (polls : Nat) (mode : ShutdownMode) :
    Processor σ δ ω × Except (Stop ε) Unit :=
  match poll polls p with
  | (p, .error stop) => (p, .error stop)
  | (p, .ok ()) =>
    match mode with
    | .immediate => (p, .ok ())
    | .drain =>
      match p.drain with
      | (p, .ok _) => (p, .ok ())
      | (p, .error stop) => (p, .error stop)

def closeDump (p : Processor σ δ ω) : Processor σ δ ω × Option (Except IoError Nat) :=
  match p.dump with
  | none => (p, none)
  | some dump =>
    match HitRecorder.finish dump p.files with
    | (files, .ok parts) => ({ p with dump := none, files }, some (.ok parts))
    | (files, .error error) => ({ p with dump := none, files }.countDumpError, some (.error error))

def publishRest (p : Processor σ δ ω) : Processor σ δ ω × Except (Stop ε) Unit :=
  match p.builder.flush with
  | .error fault => (p, .error (.fault fault))
  | .ok (events, builder) =>
    match { p with builder }.publish events with
    | (p, .error stop) => (p, .error stop)
    | (p, .ok ()) =>
      match EventSink.flush p.sink with
      | .error error => (p, .error (.sink error))
      | .ok sink => ({ p with sink }, .ok ())

/-- Publishes what is still to be formed, then ends the dump. -/
def finish (p : Processor σ δ ω) : Processor σ δ ω × Except (Stop ε) Unit :=
  match p.publishRest with
  | (p, .error stop) => (p, .error stop)
  | (p, .ok ()) => (p.closeDump.1, .ok ())

end Processor

end EventFormation
