import EventFormation.Proofs.Formation.Breaking
import EventFormation.Proofs.Processing.Sessions

namespace EventFormation.Processor

open EventBuilder (Running accepted)

/-- A sink that may refuse events but does not itself come to a halt. -/
def Harmless (σ : Type) {ε : Type} [EventSink σ ε] : Prop :=
  ∀ (sink : σ) (event : ReducedEvent) (fault : Fault), EventSink.publish sink event ≠ .error (.fault fault)

variable {σ δ ω ε : Type} [EventSink σ ε]

theorem Harmless.publishTo (harmless : Harmless σ) (sink : σ) (events : List ReducedEvent) (fault : Fault) :
    (Processor.publishTo sink events).2 ≠ .error (.fault fault) := by
  induction events generalizing sink with
  | nil => exact fun failed => nomatch failed
  | cons event rest ih =>
    unfold Processor.publishTo
    cases published : EventSink.publish sink event with
    | ok next => exact ih next
    | error stop =>
      intro failed
      cases failed
      exact harmless sink event fault published

theorem Harmless.publish (harmless : Harmless σ) (p : Processor σ δ ω) (events : List ReducedEvent) (fault : Fault) :
    (p.publish events).2 ≠ .error (.fault fault) := by
  have safe := harmless.publishTo p.sink events fault
  unfold Processor.publish
  split
  · exact fun failed => nomatch failed
  · rename_i sink stop published
    rw [published] at safe
    exact safe

theorem publish_builder (p : Processor σ δ ω) (events : List ReducedEvent) :
    (p.publish events).1.builder = p.builder := by
  unfold Processor.publish
  split <;> rfl

theorem eq_fault_of_cause {α : Type} {outcome : Except (Stop Empty) α} {fault : Fault}
    (same : outcome.mapError Stop.cause = .error fault) : outcome = .error (.fault fault) := by
  cases outcome with
  | ok value => cases same
  | error stop =>
    cases stop with
    | fault reason => cases same; rfl
    | sink error => exact nomatch error

variable [HitRecorder δ ω]

/-- The hits of the datagram that the next step takes, if there is one. -/
def next? (p : Processor σ δ ω) : Option (List Hit) :=
  p.channel.pop.map fun popped => (parseDatagram popped.1.data).1

/-- A processor that has come so far without a fault, and the hits of all datagrams that it has taken. Whatever a
sender does to the channel, it does between two steps. -/
inductive Unbroken (config : FormationConfig) : List Hit → Processor σ δ ω → Prop
  | start {p : Processor σ δ ω} : EventBuilder.ofConfig config = .ok p.builder → Unbroken config [] p
  | receive {given : List Hit} {p : Processor σ δ ω} (channel : Channel) : Unbroken config given p →
      Unbroken config given { p with channel }
  | step {given hits : List Hit} {p q : Processor σ δ ω} {outcome : Except (Stop ε) Bool} : Unbroken config given p →
      p.next? = some hits → p.step = (q, outcome) → (∀ fault, outcome ≠ .error (.fault fault)) →
      Unbroken config (given ++ hits) q

variable {config : FormationConfig} {given hits : List Hit} {p q : Processor σ δ ω} {fault : Fault}

/-- A datagram makes a processor fail just as its hits make the builder fail, and else the builder goes on. -/
theorem handle_builder (harmless : Harmless σ) (p : Processor σ δ ω) (datagram : Datagram) :
    (∀ fault, (p.handle datagram).2 = .error (.fault fault) ↔
      p.builder.push (parseDatagram datagram.data).1 = .error fault) ∧
      ∀ run, p.builder.push (parseDatagram datagram.data).1 = .ok run → (p.handle datagram).1.builder = run.2 := by
  have builder : ((p.countErrors (parseDatagram datagram.data).2.errors).record
      (parseDatagram datagram.data).1).builder = p.builder := (record_kept _ _).2.1
  unfold handle
  dsimp only
  rw [builder]
  cases push : p.builder.push (parseDatagram datagram.data).1 with
  | error reason => exact ⟨fun fault => by simp only [Except.error.injEq, Stop.fault.injEq], fun _ run => nomatch run⟩
  | ok run =>
    refine ⟨fun fault => ?_, fun _ same => ?_⟩
    · exact iff_of_false (harmless.publish _ run.1 fault) (fun failed => nomatch failed)
    · cases same
      exact publish_builder ..

theorem step_eq_handle {datagram : Datagram} {channel : Channel} (pop : p.channel.pop = some (datagram, channel)) :
    p.step.1 = ({ p with channel }.handle datagram).1 ∧
      ∀ fault, p.step.2 = .error (.fault fault) ↔ ({ p with channel }.handle datagram).2 = .error (.fault fault) := by
  unfold step
  rw [pop]
  dsimp only
  split
  · rename_i q handled
    rw [handled]
    exact ⟨rfl, fun fault => iff_of_false (fun failed => nomatch failed) (fun failed => nomatch failed)⟩
  · rename_i q stop handled
    rw [handled]
    exact ⟨rfl, fun fault => by simp only [Except.error.injEq]⟩

theorem step_builder (harmless : Harmless σ) (next : p.next? = some hits) :
    (∀ fault, p.step.2 = .error (.fault fault) ↔ p.builder.push hits = .error fault) ∧
      ∀ run, p.builder.push hits = .ok run → p.step.1.builder = run.2 := by
  obtain ⟨⟨datagram, channel⟩, pop, rfl⟩ := Option.map_eq_some_iff.mp next
  obtain ⟨same, fails⟩ := step_eq_handle pop
  obtain ⟨handled, goes⟩ := handle_builder harmless { p with channel } datagram
  exact ⟨fun fault => (fails fault).trans (handled fault), fun run push => same ▸ goes run push⟩

theorem step_eq_of_next?_eq_none (none : p.next? = none) : p.step = (p, .ok false) := by
  unfold step
  rw [Option.map_eq_none_iff.mp none]

theorem finish_eq_error_iff (harmless : Harmless σ) :
    p.finish.2 = .error (.fault fault) ↔ p.builder.flush = .error fault := by
  cases flush : p.builder.flush with
  | error reason =>
    have rest : p.publishRest = (p, .error (.fault reason)) := by
      unfold publishRest
      rw [flush]
    unfold finish
    rw [rest]
    simp only [Except.error.injEq, Stop.fault.injEq]
  | ok run =>
    refine iff_of_false ?_ (fun failed => nomatch failed)
    have safe := harmless.publish { p with builder := run.2 } run.1 fault
    have rest : p.publishRest.2 ≠ .error (.fault fault) := by
      unfold publishRest
      rw [flush]
      dsimp only
      split
      · rename_i q stop published
        rw [published] at safe
        exact safe
      · split <;> exact fun failed => nomatch failed
    unfold finish
    split
    · rename_i q stop ended
      rw [ended] at rest
      exact rest
    · exact fun failed => nomatch failed

theorem Unbroken.running (harmless : Harmless σ) (unbroken : Unbroken config given p) :
    Running config given p.builder := by
  induction unbroken with
  | start new => exact Running.start new
  | receive channel _ ih => exact ih
  | @step given hits p q outcome _ next stepped unfailing ih =>
    obtain ⟨fails, goes⟩ := step_builder harmless next
    cases push : p.builder.push hits with
    | error reason =>
      have failed := (fails reason).mpr push
      rw [stepped] at failed
      exact absurd failed (unfailing reason)
    | ok run =>
      have builder := goes run push
      rw [stepped] at builder
      have pushed : p.builder.perform (.push hits) = .ok run := push
      rw [show q.builder = run.2 from builder]
      exact ih.perform pushed

/-- A step fails just where the hits of its datagram make the builder ask for a length that the clock cannot count, or
for more room than there is, and so does the end. No other datagram can stop a processor: without two hits of tracked
planes that lie the whole clock apart, and with room for a window, neither of them ever fails. -/
theorem fault_iff_breaks (harmless : Harmless σ) (unbroken : Unbroken config given p) :
    (∀ fault, p.step.2 = .error (.fault fault) ↔
      ∃ hits, p.next? = some hits ∧ p.builder.Breaks config (.push hits) fault) ∧
    (∀ fault, p.finish.2 = .error (.fault fault) ↔ p.builder.Breaks config .flush fault) ∧
    (config.reduction.maxTimebins * 8 ≤ maxBlockBytes → ∀ fault,
      (ClockLimited (accepted config (given ++ p.next?.getD [])) → p.step.2 ≠ .error (.fault fault)) ∧
      (ClockLimited (accepted config given) → p.finish.2 ≠ .error (.fault fault))) := by
  have running := unbroken.running harmless
  have steps (fault : Fault) : p.step.2 = .error (.fault fault) ↔
      ∃ hits, p.next? = some hits ∧ p.builder.Breaks config (.push hits) fault := by
    cases next : p.next? with
    | none =>
      rw [step_eq_of_next?_eq_none next]
      exact iff_of_false (fun failed => nomatch failed) (fun there => nomatch there.choose_spec.1)
    | some hits =>
      rw [(step_builder harmless next).1, show p.builder.push hits = p.builder.perform (.push hits) from rfl,
        running.perform_eq_error_iff]
      simp only [Option.some.injEq, exists_eq_left']
  have ends (fault : Fault) : p.finish.2 = .error (.fault fault) ↔ p.builder.Breaks config .flush fault := by
    rw [finish_eq_error_iff harmless, show p.builder.flush = p.builder.perform .flush from rfl,
      running.perform_eq_error_iff]
  refine ⟨steps, ends, fun room fault => ⟨fun limited failed => ?_, fun limited failed => ?_⟩⟩
  · obtain ⟨hits, next, breaks⟩ := (steps fault).mp failed
    rw [next] at limited
    refine running.not_breaks ?_ room breaks
    exact limited
  · refine running.not_breaks ?_ room ((ends fault).mp failed)
    rwa [EventBuilder.Call.hits, List.append_nil]

theorem harmless_list : Harmless (List ReducedEvent) := fun _ _ _ failed => nomatch failed

/-- The whole clock lies between these two hits, but only one of them is on a tracked plane. -/
theorem fault_iff_breaks_tracked :
    let hits : List Hit := [⟨18446744073709551615, 0, 1, 1⟩, ⟨0, 7, 1, 1⟩]
    ∃ p : Processor (List ReducedEvent) DumpWriter FileStore, p.next? = some hits ∧ ∃ q, p.step = (q, .ok true) ∧
      Unbroken {} hits q ∧ ∀ fault, q.finish.2 ≠ .error (.fault fault) := by
  intro hits
  have ends : (((Channel.allocate 4 64).toOption.bind (·.toOption)).bind fun channel =>
      ((channel.send (Hit.encodeAll hits)).toOption.bind (·.toOption)).bind fun sent =>
        (EventBuilder.ofConfig {}).toOption.map fun builder =>
          let p : Processor (List ReducedEvent) DumpWriter FileStore :=
            { channel := sent.2, builder, sink := [], dump := none, files := {} }
          (p.next?, p.step.2.toOption)) = some (some hits, some true) := by decide +kernel
  obtain ⟨channel, _, ends⟩ := Option.bind_eq_some_iff.mp ends
  obtain ⟨sent, _, ends⟩ := Option.bind_eq_some_iff.mp ends
  obtain ⟨builder, new, ends⟩ := Option.map_eq_some_iff.mp ends
  obtain ⟨next, stepped⟩ := Prod.ext_iff.mp ends
  let p : Processor (List ReducedEvent) DumpWriter FileStore :=
    { channel := sent.2, builder, sink := [], dump := none, files := {} }
  have step : p.step = (p.step.1, .ok true) := Prod.ext rfl (eq_ok_of_toOption stepped)
  have fresh : Unbroken {} [] p := .start (eq_ok_of_toOption new)
  have unbroken : Unbroken {} hits p.step.1 := fresh.step next step fun fault failed => nomatch failed
  refine ⟨p, next, p.step.1, step, unbroken, fun fault => ?_⟩
  exact ((fault_iff_breaks harmless_list unbroken).2.2 (by decide) fault).2 (by decide +kernel)

/-- A datagram of these hits is handled, but then the end fails. -/
def FailsAtEnd (config : FormationConfig) (hits : List Hit) (fault : Fault) : Prop :=
  ∃ channel start, ∃ s : Session DumpWriter FileStore, Channel.allocate 4 64 = .ok (.ok channel) ∧
    EventBuilder.ofConfig config = .ok start ∧
    Session.actAll { processor := { channel, builder := start, sink := [], dump := none, files := {} } }
      [.send (Hit.encodeAll hits), .step] = (s, .ok ()) ∧
    s.taken = [Hit.encodeAll hits] ∧ s.processor.finish.2 = .error (.fault fault)

theorem FailsAtEnd.of_run (run : (((Channel.allocate 4 64).toOption.bind (·.toOption)).bind fun channel =>
    (EventBuilder.ofConfig config).toOption.bind fun start =>
      let fresh : Session DumpWriter FileStore :=
        { processor := { channel, builder := start, sink := [], dump := none, files := {} } }
      let run := fresh.actAll [.send (Hit.encodeAll hits), .step]
      run.2.toOption.map fun _ => (run.1.taken, run.1.processor.finish.2.mapError Stop.cause)) =
        some ([Hit.encodeAll hits], .error fault)) : FailsAtEnd config hits fault := by
  obtain ⟨channel, allocated, run⟩ := Option.bind_eq_some_iff.mp run
  obtain ⟨inner, outer, allocated⟩ := Option.bind_eq_some_iff.mp allocated
  have allocated : Channel.allocate 4 64 = .ok (.ok channel) := by
    rw [eq_ok_of_toOption outer, eq_ok_of_toOption allocated]
  obtain ⟨start, new, run⟩ := Option.bind_eq_some_iff.mp run
  obtain ⟨_, handled, run⟩ := Option.map_eq_some_iff.mp run
  obtain ⟨taken, failed⟩ := Prod.ext_iff.mp run
  exact ⟨channel, start, _, allocated, eq_ok_of_toOption new, Prod.ext rfl (eq_ok_of_toOption handled), taken,
    eq_fault_of_cause failed⟩

/-- Two hits that are the whole clock apart can be one cluster: in order if no gap is too long, and out of order
always, as a step back does not end a time-group. A window too large for any block fails at a single hit. -/
theorem failsAtEnd_whole_clock :
    let first : Hit := ⟨0, 0, 1, 1⟩
    let last : Hit := ⟨18446744073709551615, 0, 1, 1⟩
    FailsAtEnd { clusters := { maxTimeGap := 18446744073709551615 } } [first, last] .sumOverflow ∧
      FailsAtEnd {} [last, first] .sumOverflow ∧
      FailsAtEnd { reduction := { maxTimebins := 1152921504606846976 } } [first] .capacityOverflow :=
  ⟨.of_run (by decide +kernel), .of_run (by decide +kernel), .of_run (by decide +kernel)⟩

end EventFormation.Processor
