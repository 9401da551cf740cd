import EventFormation.Dump.Chunk
import EventFormation.Files.OpenFile
import EventFormation.Log

namespace EventFormation

/-- Writes hits to a dump. A new chunk is begun where the current one would grow too large. -/
structure DumpWriter where
  stem : String
  /-- Largest size of a chunk, never too small for a record. -/
  limit : Nat
  /-- Number of the chunk that was begun last, even in vain. -/
  chunk : Nat := 0
  file : OpenFile
  written : Nat := DumpChunk.headerSize
  chunks : List Nat := [0]
  deriving Repr

namespace DumpWriter

def defaultLimit : Nat := 1024 * 1024 * 1024

def openChunk (s : FileStore) (path : String) : Except IoError (OpenFile × FileStore) :=
  match s.create path with
  | .error error => .error (.file error)
  | .ok (number, s) => .ok (OpenFile.write { number } s DumpChunk.header)

def create (s : FileStore) (stem : String) (limit : Nat) : Except IoError (DumpWriter × FileStore) := do
  let (file, s) ← openChunk s (DumpChunk.pathOf stem 0)
  return ({ stem, limit := max limit (DumpChunk.headerSize + Hit.recordSize), file }, s)

def isFull (w : DumpWriter) : Bool := w.written + Hit.recordSize > w.limit

def flush (w : DumpWriter) (s : FileStore) : DumpWriter × FileStore :=
  let (file, s) := w.file.flush s
  ({ w with file }, s)

/-- Begins the next chunk. If that fails, the old one is still there to be written. -/
def rotate (w : DumpWriter) (s : FileStore) : DumpWriter × FileStore × Option IoError :=
  let (w, s) := w.flush s
  let chunk := w.chunk + 1
  match openChunk s (DumpChunk.pathOf w.stem chunk) with
  | .error error => ({ w with chunk }, s, some error)
  | .ok (file, s) =>
    ({ w with chunk, file, written := DumpChunk.headerSize, chunks := w.chunks ++ [chunk] }, s, none)

def put (w : DumpWriter) (s : FileStore) (hit : Hit) : DumpWriter × FileStore :=
  let (file, s) := w.file.write s hit.encode
  ({ w with file, written := w.written + Hit.recordSize }, s)

/-- Writes hits up to the first failure. -/
def write : DumpWriter → FileStore → List Hit → DumpWriter × FileStore × Option IoError
  | w, s, [] => (w, s, none)
  | w, s, hit :: rest =>
    if w.isFull then
      match w.rotate s with
      | (w, s, some error) => (w, s, some error)
      | (w, s, none) =>
        let (w, s) := w.put s hit
        write w s rest
    else
      let (w, s) := w.put s hit
      write w s rest

def paths (w : DumpWriter) : List String := w.chunks.map (DumpChunk.pathOf w.stem)

def writeLog (w later : DumpWriter) : List LogRecord :=
  (later.chunks.drop w.chunks.length).map fun chunk =>
    ⟨.dump, .debug, "dump rotated to chunk " ++ toString chunk⟩

end DumpWriter

end EventFormation
