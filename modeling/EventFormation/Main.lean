import EventFormation.Command.Execution

namespace EventFormation

def loadPath (s : FileStore) (path : String) : IO FileStore := do
  try
    let found ← IO.FS.realPath path
    if ← found.isDir then return s.makeDirectory path
    else return s.put path (← IO.FS.readBinFile found).toList
  catch _ => return s

/-- The directory that a path lies in, as it is written. -/
def parentText (path : String) : String :=
  String.ofList (path.toList.reverse.dropWhile (· != '/')).reverse

def loadFile (s : FileStore) (path : String) : IO FileStore := do
  let parent := parentText path
  loadPath (← if parent.isEmpty then pure s else loadPath s parent) path

/-- Adds the chunks of a dump up to the first that is missing. -/
partial def loadDump (s : FileStore) (stem : String) (chunk : Nat) : IO FileStore := do
  let path := DumpChunk.pathOf stem chunk
  let s ← loadFile s path
  if s.isFile path then loadDump s stem (chunk + 1) else return s

namespace Command.Task

/-- The files a task works on by name, and the stems of its dumps. -/
def paths : Task → List String × List String
  | listen source _ => (source.file.toList, [])
  | replay source dump table _ => (source.file.toList ++ [table], [dump])
  | generate dump _ => ([], [dump])
  | send dump => ([], [dump])
  | describe dump => ([], [dump])

end Command.Task

def loadTask (task : Command.Task) : IO FileStore := do
  let s ← task.paths.1.foldlM loadFile {}
  task.paths.2.foldlM (fun s stem => loadDump s stem 0) s

def saveFile (before after : FileStore) (path : String) : IO Unit := do
  match before.read path, after.read path with
  | .ok old, .ok new => if old != new then IO.FS.writeBinFile path ⟨new.toArray⟩
  | .error _, .ok new => IO.FS.writeBinFile path ⟨new.toArray⟩
  | _, .error _ => return

def saveTask (before after : FileStore) (task : Command.Task) : IO Unit := do
  task.paths.1.forM (saveFile before after)
  task.paths.2.forM fun stem => (DumpChunk.paths after stem).forM (saveFile before after)

/-- Milliseconds in seconds with two decimal places. -/
def secondsText (ms : Nat) : String :=
  let hundredths := (ms + 5) / 10
  toString (hundredths / 100) ++ "." ++ toString (hundredths / 10 % 10) ++ toString (hundredths % 10)

end EventFormation

open EventFormation in
def main (arguments : List String) : IO UInt32 := do
  let start ← IO.monoMsNow
  let task := match Command.Invocation.ofArguments arguments with
    | .ok i => some i.task
    | .error _ => none
  let before ← match task with
    | some task => loadTask task
    | none => pure {}
  let outcome := Command.Outcome.ofArguments before arguments
  if let some task := task then saveTask before outcome.files task
  let elapsed := secondsText ((← IO.monoMsNow) - start)
  outcome.printed.forM fun line => IO.println (line.render elapsed)
  if let some complaint := outcome.complaint then IO.eprintln complaint
  return outcome.code.toUInt32
