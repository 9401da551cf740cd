import EventFormation.Log.Formation
import EventFormation.Processing.Processor

namespace EventFormation.Processor

variable {σ δ ω ε : Type} [EventSink σ ε] [HitRecorder δ ω]

def readoutLog (index errors : Nat) : List LogRecord :=
  if errors = 0 then []
  else [⟨.processing, .debug, "slot " ++ toString index ++ ": " ++ toString errors ++
    " undecodable records"⟩]

def recordLog (p : Processor σ δ ω) (hits : List Hit) : List LogRecord :=
  match p.dump with
  | none => []
  | some dump =>
    let failure := match (HitRecorder.write dump p.files hits).2.2 with
      | none => []
      | some error => [⟨.processing, .error, "dump disabled: " ++ error.message⟩]
    HitRecorder.writeLog dump p.files hits ++ failure

def stepLog (p : Processor σ δ ω) : Except Fault (List LogRecord) :=
  match p.channel.pop with
  | none => .ok []
  | some (datagram, _) => do
    let (hits, report) := parseDatagram datagram.data
    return readoutLog datagram.index report.errors ++ p.recordLog hits ++ (← p.builder.pushLog hits)

def pollLog : Nat → Processor σ δ ω → Except Fault (List LogRecord)
  | 0, _ => .ok []
  | polls + 1, p => do
    let records ← p.stepLog
    match p.step with
    | (_, .error _) => return records
    | (p, .ok true) => return records ++ (← pollLog polls p)
    | (p, .ok false) => return records ++ (← pollLog polls p.countEmptyPoll)

def drainLogWithin : Nat → Nat → Processor σ δ ω → Except Fault (List LogRecord)
  | 0, _, _ => .ok []
  | fuel + 1, count, p => do
    let records ← p.stepLog
    match p.step with
    | (_, .error _) => return records
    | (p, .ok true) => return records ++ (← drainLogWithin fuel (count + 1) p)
    | (_, .ok false) =>
      return records ++ [⟨.processing, .debug, "drained " ++ toString count ++ " slots"⟩]

def drainLog (p : Processor σ δ ω) : Except Fault (List LogRecord) :=
  drainLogWithin (p.channel.queued + 1) 0 p

def runLog (p : Processor σ δ ω) (polls : Nat) (mode : ShutdownMode) :
    Except Fault (List LogRecord) := do
  let records ← pollLog polls p
  match mode, poll polls p with
  | .drain, (p, .ok ()) => return records ++ (← p.drainLog)
  | _, _ => return records

def closeLog (p : Processor σ δ ω) : List LogRecord :=
  match p.closeDump.2 with
  | none => []
  | some (.ok parts) =>
    [⟨.processing, .info, "dump written to " ++ toString parts ++ " chunks"⟩]
  | some (.error error) => [⟨.processing, .error, "dump not flushed: " ++ error.message⟩]

def finishLog (p : Processor σ δ ω) : Except Fault (List LogRecord) := do
  let records ← p.builder.flushLog
  match p.publishRest with
  | (_, .error _) => return records
  | (p, .ok ()) =>
    let summary := "processing finished: " ++ p.closeDump.1.statistics.text
    return records ++ p.closeLog ++ [⟨.processing, .info, summary⟩]

end EventFormation.Processor
