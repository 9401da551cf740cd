import EventFormation.Config.Basic

namespace EventFormation

/-- A reproducible sequence of numbers: `x` is followed by `a * x + c`, modulo the size of a
word. Only the upper bits are used, since the lower ones repeat soon. -/
structure NumberSequence where
  state : UInt64
  deriving Repr, DecidableEq

namespace NumberSequence

def step (s : NumberSequence) : NumberSequence :=
  ⟨s.state * 6364136223846793005 + 1442695040888963407⟩

/-- A number below the bound, which must not be zero. -/
def below (s : NumberSequence) (bound : Nat) : Nat × NumberSequence :=
  let s := s.step
  ((s.state >>> 33).toNat % bound, s)

end NumberSequence

namespace GeneratorConfig

def length (c : GeneratorConfig) : Nat := max c.trackLength.toNat 1

def startRange (c : GeneratorConfig) : Nat := max (c.coordinates.toNat - c.length) 1

def weightRange (c : GeneratorConfig) : Nat := max c.maxWeight.toNat 1

/-- The numbers still to be used, and the hits made so far, last one first. -/
abbrev Progress := NumberSequence × List Hit

def addHit (c : GeneratorConfig) (time : Nat) (plane : UInt8) (start : Nat) (done : Progress)
    (step : Nat) : Except Fault Progress := do
  let (weight, numbers) := done.1.below c.weightRange
  let hitTime ← checkedSum time step
  return (numbers, { time := .ofNat hitTime, plane, coordinate := .ofNat (start + step),
                     weight := .ofNat (1 + weight) } :: done.2)

/-- Adds a track. Time and coordinate rise by one from hit to hit. -/
def addTrack (c : GeneratorConfig) (time : Nat) (done : Progress) (plane : UInt8) :
    Except Fault Progress :=
  let (start, numbers) := done.1.below c.startRange
  (List.range c.length).foldlM (c.addHit time plane start) (numbers, done.2)

/-- Adds events, each with a track on every plane. The clock moves on after each of them. -/
def addEvents (c : GeneratorConfig) : Nat → Nat → Progress → Except Fault Progress
  | 0, _, done => .ok done
  | events + 1, time, done => do
    let done ← c.planes.foldlM (c.addTrack time) done
    let later ← checkedSum time c.spacing.toNat
    addEvents c events later done

def hits (c : GeneratorConfig) : Except Fault (List Hit) := do
  let tracks ← checkedProduct c.events c.planes.length
  let total ← checkedProduct tracks c.length
  checkCapacity total 16
  let (_, made) ← c.addEvents c.events 0 (⟨c.seed⟩, [])
  return Hit.sortByTime made.reverse

end GeneratorConfig

end EventFormation
