import EventFormation.Files.Store

namespace EventFormation

/-- A file that is open to be written from its start on. What is written waits until there is
enough of it, and is then put where the writer left off, whatever has become of the file. -/
structure OpenFile where
  number : Nat
  position : Nat := 0
  waiting : Array UInt8 := #[]
  deriving Repr

namespace OpenFile

def capacity : Nat := 8192

def flush (f : OpenFile) (s : FileStore) : OpenFile × FileStore :=
  ({ number := f.number, position := f.position + f.waiting.size },
    s.writeAt f.number f.position f.waiting)

/-- Writes bytes, after those that wait if there is no room for more. -/
def write (f : OpenFile) (s : FileStore) (data : List UInt8) : OpenFile × FileStore :=
  if f.waiting.size + data.length ≤ capacity then
    ({ f with waiting := f.waiting ++ data }, s)
  else
    let (f, s) := f.flush s
    ({ f with waiting := data.toArray }, s)

end OpenFile

end EventFormation
