import EventFormation.Files.Store
import EventFormation.IoError
import EventFormation.Readout.Record

namespace EventFormation

/-- The records of one file of a dump. -/
structure DumpChunk where
  path : String
  body : List UInt8
  deriving Repr, DecidableEq

namespace DumpChunk

/-- The first bytes of a chunk: eight letters, the format version and the size of a record. -/
def header : List UInt8 :=
  "EVFMDUMP".toUTF8.toList ++ toLittleEndian 4 dumpVersion ++ toLittleEndian 4 Hit.recordSize

def headerSize : Nat := 16

/-- The path of a chunk, with a number of at least five digits. -/
def pathOf (stem : String) (chunk : Nat) : String :=
  let digits := toString chunk
  stem ++ "_" ++ String.ofList (List.replicate (5 - digits.length) '0') ++ digits ++ ".dump"

/-- The paths of existing chunks from a number on, up to the first gap. -/
def pathsFrom (s : FileStore) (stem : String) : Nat → Nat → List String
  | 0, _ => []
  | fuel + 1, chunk =>
    let path := pathOf stem chunk
    if s.isFile path then path :: pathsFrom s stem fuel (chunk + 1) else []

/-- The paths of the chunks of a dump. There cannot be more of them than files. -/
def paths (s : FileStore) (stem : String) : List String := pathsFrom s stem s.nodes.length 0

/-- Reads a chunk, which must have the header and whole records. -/
def load (s : FileStore) (path : String) : Except IoError DumpChunk := do
  match s.map path with
  | .error error => throw (.file error)
  | .ok bytes =>
    if bytes.take headerSize ≠ header then throw (.format (.notDump path))
    else
      let body := bytes.drop headerSize
      if body.length % Hit.recordSize ≠ 0 then throw (.format (.truncatedRecord path))
      else return { path, body }

def length (c : DumpChunk) : Nat := Hit.recordsIn c.body.length

def isEmpty (c : DumpChunk) : Bool := c.length == 0

/-- The hits of a chunk, without records on the reserved plane. -/
def hits (c : DumpChunk) : List Hit := (Hit.recordsOf c.body).filterMap Hit.decode?

end DumpChunk

/-- The hits of all chunks of a dump, of which there must be one. -/
def readDump (s : FileStore) (stem : String) : Except IoError (List Hit) := do
  let paths := DumpChunk.paths s stem
  if paths.isEmpty then throw (.format (.noChunks stem))
  return (← paths.mapM (DumpChunk.load s)).flatMap DumpChunk.hits

end EventFormation
