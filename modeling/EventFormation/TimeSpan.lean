import EventFormation.Fault

namespace EventFormation

/-- The time between two readings of the detector clock, zero if the second is not
later than the first. -/
def ticksSince (earlier later : UInt64) : Nat := later.toNat - earlier.toNat

def lastTick : Nat := 18446744073709551615

def ticksApart (a b : UInt64) : Nat := ticksSince a b + ticksSince b a

/-- The reading some ticks later, or the last one if the clock ends before. -/
def readingAfter (time : UInt64) (ticks : Nat) : Nat := min (time.toNat + ticks) lastTick

/-- Both ends of a stretch of time, each counted. -/
structure TimeSpan where
  first : UInt64
  last : UInt64
  deriving Repr, DecidableEq

namespace TimeSpan

/-- Number of ticks from the first to the last, both counted. The whole range of the clock
has one tick too many to be counted. -/
def ticks (span : TimeSpan) : Except Fault Nat :=
  checkedSum (ticksSince span.first span.last) 1

def overlap (a b : TimeSpan) : Except Fault Nat :=
  let start := max a.first b.first
  let stop := min a.last b.last
  if start > stop then .ok 0 else checkedSum (ticksSince start stop) 1

/-- Distance from the end of the earlier to the start of the later stretch, zero if they meet. -/
def gap (a b : TimeSpan) : Nat :=
  ticksSince (min a.last b.last) (max a.first b.first)

end TimeSpan

end EventFormation
