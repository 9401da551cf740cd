import EventFormation.Dump.Chunk

namespace EventFormation

/-- What a dump holds, chunk by chunk. -/
structure DumpSummary where
  chunks : List DumpChunk
  deriving Repr, DecidableEq

def DumpChunk.line (c : DumpChunk) : String := c.path ++ ": " ++ toString c.length ++ " hits"

namespace DumpSummary

def hits (s : DumpSummary) : List Hit := s.chunks.flatMap DumpChunk.hits

/-- Number of records, those on the reserved plane included. -/
def records (s : DumpSummary) : Nat := s.chunks.foldr (fun c count => c.length + count) 0

def timeRange? (hits : List Hit) : Option (UInt64 × UInt64) := do
  let times := hits.map (·.time)
  return (← times.min?, ← times.max?)

def tally (hits : List Hit) : Array Nat :=
  hits.foldl (fun counts hit => counts.modify hit.plane.toNat (· + 1)) (Array.replicate 256 0)

theorem getD_tally (hits : List Hit) (plane : UInt8) :
    (tally hits).getD plane.toNat 0 = hits.countP (·.plane == plane) := by
  have step (counts : Array Nat) (enough : counts.size = 256) :
      (hits.foldl (fun counts hit => counts.modify hit.plane.toNat (· + 1)) counts).getD plane.toNat 0 =
        counts.getD plane.toNat 0 + hits.countP (·.plane == plane) := by
    induction hits generalizing counts with
    | nil => simp
    | cons hit rest ih =>
      have inside : plane.toNat < counts.size := enough ▸ plane.toNat_lt
      rw [List.foldl_cons, ih _ (by simpa using enough), List.countP_cons]
      by_cases same : hit.plane = plane
      · simp [same, Array.getD_eq_getD_getElem?, Array.getElem_modify, inside]
        omega
      · have apart : hit.plane.toNat ≠ plane.toNat := fun h => same (UInt8.toNat_inj.mp h)
        simp [same, apart, Array.getD_eq_getD_getElem?, Array.getElem?_modify]
  have inside : plane.toNat < 256 := plane.toNat_lt
  simpa [tally, Array.getD_eq_getD_getElem?, inside] using step (Array.replicate 256 0) (by simp)

def planeCounts (hits : List Hit) : List (UInt8 × Nat) :=
  let counts := tally hits
  ((List.range 256).map fun plane => (UInt8.ofNat plane, counts.getD plane 0)).filter (·.2 != 0)

def timeLines (hits : List Hit) : List String :=
  match timeRange? hits with
  | some (first, last) => ["Time range: " ++ toString first ++ " - " ++ toString last]
  | none => []

def planeLines (hits : List Hit) : List String :=
  (planeCounts hits).map fun (plane, count) =>
    "Plane " ++ toString plane ++ ": " ++ toString count ++ " hits"

def lines (s : DumpSummary) : List String :=
  let hits := s.hits
  ["Chunks: " ++ toString s.chunks.length, "Hits: " ++ toString s.records] ++
    timeLines hits ++ planeLines hits

end DumpSummary

end EventFormation
