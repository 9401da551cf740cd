import EventFormation.Formation.Builder
import EventFormation.Text.Display

namespace EventFormation

/-- What happened between the detector and the published events. -/
structure ReceiveStatistics where
  /-- Datagrams that were queued, and their bytes. -/
  packets : Nat := 0
  bytes : Nat := 0
  idle : Nat := 0
  dropped : Nat := 0
  /-- Failures of the dump. The first one ends it. -/
  dumpErrors : Nat := 0
  emptyPolls : Nat := 0
  readoutErrors : Nat := 0
  hits : Nat := 0
  clusters : Nat := 0
  events : Nat := 0
  goodEvents : Nat := 0
  badEvents : Nat := 0
  deriving Repr, DecidableEq

namespace ReceiveStatistics

def adopt (s : ReceiveStatistics) (formation : FormationStatistics) : ReceiveStatistics :=
  { s with
    hits := formation.hits
    clusters := formation.clusters
    events := formation.events
    goodEvents := formation.goodEvents
    badEvents := formation.badEvents }

/-- The counters with the names under which they are reported. -/
def counters (s : ReceiveStatistics) : List (String × Nat) :=
  [("rx_packets", s.packets), ("rx_bytes", s.bytes), ("rx_idle", s.idle),
   ("fifo_push_errors", s.dropped), ("dump_errors", s.dumpErrors),
   ("processing_idle", s.emptyPolls), ("readout_errors", s.readoutErrors), ("hits", s.hits),
   ("clusters", s.clusters), ("events", s.events), ("good_events", s.goodEvents),
   ("bad_events", s.badEvents)]

def text (s : ReceiveStatistics) : String :=
  Text.labelled "RxStatsSnapshot" (s.counters.map fun counter => (counter.1, toString counter.2))

end ReceiveStatistics

end EventFormation
