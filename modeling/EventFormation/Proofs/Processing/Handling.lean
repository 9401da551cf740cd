import EventFormation.Processing.Processor
import EventFormation.Proofs.Formation.Calls
import EventFormation.Readout.Record

namespace EventFormation

/-- A sink that refuses nothing is never what stops processing. -/
def Stop.cause : Stop Empty → Fault
  | .fault reason => reason
  | .sink error => nomatch error

namespace EventBuilder

variable {b : EventBuilder}

/-- The calls that a datagram amounts to: its hits are added one by one, then what is final is matched. -/
def datagramCalls (data : List UInt8) : List Call := (parseDatagram data).1.map .insert ++ [.process]

theorem performAll_insert (hits : List Hit) (rest : List Call) :
    b.performAll (hits.map .insert ++ rest) = (b.insertAll hits).performAll rest := by
  induction hits generalizing b with
  | nil => rfl
  | cons hit others ih =>
    have later : (b.insert hit).performAll (others.map .insert ++ rest) = (b.insertAll (hit :: others)).performAll rest :=
      ih
    show ((b.insert hit).performAll (others.map .insert ++ rest) >>= _) = _
    rw [later]
    exact bind_pure _

theorem performAll_datagram (data : List UInt8) : b.performAll (datagramCalls data) = b.push (parseDatagram data).1 := by
  rw [datagramCalls, performAll_insert]
  show ((b.insertAll (parseDatagram data).1).process >>= _) = (b.insertAll (parseDatagram data).1).process
  cases (b.insertAll (parseDatagram data).1).process with
  | error fault => rfl
  | ok run =>
    show Except.ok _ = Except.ok _
    rw [List.append_nil]

end EventBuilder

namespace Processor

variable {δ ω α : Type} {p : Processor (List ReducedEvent) δ ω}

/-- The published events and the builder that processing leaves, or what it fails with. -/
def published (result : Processor (List ReducedEvent) δ ω × Except (Stop Empty) α) :
    Except Fault (List ReducedEvent × EventBuilder) :=
  match result.2 with
  | .ok _ => .ok (result.1.sink, result.1.builder)
  | .error stop => .error stop.cause

/-- The counters of the formation are those of the builder. -/
structure Adopted (p : Processor (List ReducedEvent) δ ω) : Prop where
  hits : p.statistics.hits = p.builder.statistics.hits
  clusters : p.statistics.clusters = p.builder.statistics.clusters
  events : p.statistics.events = p.builder.statistics.events
  goodEvents : p.statistics.goodEvents = p.builder.statistics.goodEvents
  badEvents : p.statistics.badEvents = p.builder.statistics.badEvents

/-- All that can become of a processor by a datagram that was taken from its channel. -/
inductive Handled (p : Processor (List ReducedEvent) δ ω) (data : List UInt8) :
    Processor (List ReducedEvent) δ ω × Except (Stop Empty) Unit → Prop
  | failed {q reason} : p.builder.push (parseDatagram data).1 = .error reason → q.channel = p.channel →
      q.statistics.readoutErrors = p.statistics.readoutErrors + (parseDatagram data).2.errors →
      Handled p data (q, .error (.fault reason))
  | done {q events} : p.builder.push (parseDatagram data).1 = .ok (events, q.builder) → q.channel = p.channel →
      q.statistics.readoutErrors = p.statistics.readoutErrors + (parseDatagram data).2.errors →
      q.sink = p.sink ++ events → q.Adopted → Handled p data (q, .ok ())

theorem publishTo_eq (sink events : List ReducedEvent) : publishTo sink events = (sink ++ events, .ok ()) := by
  induction events generalizing sink with
  | nil => rw [List.append_nil]; rfl
  | cons event rest ih =>
    show publishTo (sink ++ [event]) rest = _
    rw [ih, List.append_assoc]
    rfl

theorem publish_eq (p : Processor (List ReducedEvent) δ ω) (events : List ReducedEvent) :
    p.publish events = ({ p with
      sink := p.sink ++ events, statistics := p.statistics.adopt p.builder.statistics }, .ok ()) := by
  unfold publish
  rw [publishTo_eq]

variable [HitRecorder δ ω]

/-- A dump takes part in nothing but the dump. -/
theorem record_kept {σ : Type} (p : Processor σ δ ω) (hits : List Hit) :
    (p.record hits).channel = p.channel ∧ (p.record hits).builder = p.builder ∧ (p.record hits).sink = p.sink ∧
      (p.record hits).statistics.readoutErrors = p.statistics.readoutErrors := by
  unfold record
  split
  · exact ⟨rfl, rfl, rfl, rfl⟩
  · split <;> exact ⟨rfl, rfl, rfl, rfl⟩

theorem handle_handled (p : Processor (List ReducedEvent) δ ω) (datagram : Datagram) :
    Handled p datagram.data (p.handle datagram) := by
  obtain ⟨channel, builder, sink, errors⟩ :=
    (p.countErrors (parseDatagram datagram.data).2.errors).record_kept (parseDatagram datagram.data).1
  unfold handle
  dsimp only
  rw [builder]
  cases push : (p.countErrors (parseDatagram datagram.data).2.errors).builder.push (parseDatagram datagram.data).1 with
  | error reason => exact .failed push channel errors
  | ok run =>
    dsimp only
    rw [publish_eq, sink]
    exact .done push channel errors rfl ⟨rfl, rfl, rfl, rfl, rfl⟩

theorem closeDump_kept (p : Processor (List ReducedEvent) δ ω) :
    p.closeDump.1.builder = p.builder ∧ p.closeDump.1.sink = p.sink := by
  unfold closeDump
  split
  · exact ⟨rfl, rfl⟩
  · split <;> exact ⟨rfl, rfl⟩

/-- The events of a last flush are published behind all others. -/
theorem finish_published (p : Processor (List ReducedEvent) δ ω) :
    published p.finish = p.builder.flush.map fun last => (p.sink ++ last.1, last.2) := by
  cases flush : p.builder.flush with
  | error reason =>
    have rest : p.publishRest = (p, .error (.fault reason)) := by
      unfold publishRest
      rw [flush]
    unfold finish
    rw [rest]
    rfl
  | ok last =>
    obtain ⟨events, builder⟩ := last
    have rest : ∃ q, p.publishRest = (q, .ok ()) ∧ q.builder = builder ∧ q.sink = p.sink ++ events := by
      unfold publishRest
      rw [flush]
      dsimp only
      rw [publish_eq]
      exact ⟨_, rfl, rfl, rfl⟩
    obtain ⟨q, rest, builder, sink⟩ := rest
    obtain ⟨sameBuilder, sameSink⟩ := q.closeDump_kept
    unfold finish
    rw [rest]
    show Except.ok (q.closeDump.1.sink, q.closeDump.1.builder) = Except.ok _
    rw [sameBuilder, sameSink, builder, sink]

end Processor

end EventFormation
