import EventFormation.Proofs.Processing.Crashes

namespace EventFormation

/-- Writes one list of hits after another, up to the first failure. -/
def HitRecorder.writeAll {δ ω : Type} [HitRecorder δ ω] (dump : δ) (files : ω) :
    List (List Hit) → δ × ω × Option IoError
  | [] => (dump, files, none)
  | hits :: rest =>
    match HitRecorder.write dump files hits with
    | (dump, files, none) => writeAll dump files rest
    | (dump, files, some error) => (dump, files, some error)

/-- A dump, as long as there is one, with its files and the number of its failures. -/
structure Recording (δ ω : Type) where
  dump : Option δ
  files : ω
  failures : Nat

namespace Recording

variable {δ ω : Type} [HitRecorder δ ω] {r : Recording δ ω} {hits : List Hit} {batches : List (List Hit)}

def write (r : Recording δ ω) (hits : List Hit) : Recording δ ω :=
  match r.dump with
  | none => r
  | some dump =>
    match HitRecorder.write dump r.files hits with
    | (dump, files, none) => { r with dump := some dump, files }
    | (_, files, some _) => ⟨none, files, r.failures + 1⟩

theorem foldl_write_none (none : r.dump = none) : batches.foldl write r = r := by
  refine List.foldlRecOn (motive := fun q => q = r) batches write rfl ?_
  rintro q rfl hits _
  rw [write, none]

/-- A dump gets all hits up to its first failure, and none after it. -/
theorem foldl_write_some {dump : δ} (there : r.dump = some dump) :
    batches.foldl write r =
      match HitRecorder.writeAll dump r.files batches with
      | (dump, files, none) => ⟨some dump, files, r.failures⟩
      | (_, files, some _) => ⟨none, files, r.failures + 1⟩ := by
  induction batches generalizing r dump with
  | nil =>
    obtain ⟨_, files, failures⟩ := r
    cases there
    rfl
  | cons hits rest ih =>
    rw [List.foldl_cons, write, there, HitRecorder.writeAll]
    dsimp only
    rcases HitRecorder.write dump r.files hits with ⟨next, files, none | error⟩
    · exact ih rfl
    · exact foldl_write_none rfl

/-- A dump that has failed is gone. -/
def FailsOnce (r : Recording δ ω) : Prop := r.failures + r.dump.toList.length ≤ 1

theorem FailsOnce.write (once : r.FailsOnce) (hits : List Hit) : (r.write hits).FailsOnce := by
  unfold Recording.write
  obtain ⟨dump, files, failures⟩ := r
  cases dump with
  | none => exact once
  | some dump =>
    dsimp only
    -- A failure that is counted makes up for the dump that is gone.
    rcases HitRecorder.write dump files hits with ⟨next, files, none | error⟩ <;> exact once

end Recording

namespace Processor

variable {σ δ ω ε : Type} [EventSink σ ε] {p : Processor σ δ ω} {files : ω} {hits : List Hit}

/-- The processor as it would be if there had never been a dump. -/
def unrecorded (files : ω) (p : Processor σ δ ω) : Processor σ δ ω :=
  { p with dump := none, files, statistics := { p.statistics with dumpErrors := 0 } }

def recording (p : Processor σ δ ω) : Recording δ ω := ⟨p.dump, p.files, p.statistics.dumpErrors⟩

@[simp] theorem channel_unrecorded : (p.unrecorded files).channel = p.channel := rfl

@[simp] theorem builder_unrecorded : (p.unrecorded files).builder = p.builder := rfl

@[simp] theorem sink_unrecorded : (p.unrecorded files).sink = p.sink := rfl

theorem publish_unrecorded (events : List ReducedEvent) :
    (p.unrecorded files).publish events = ((p.publish events).1.unrecorded files, (p.publish events).2) := by
  unfold publish
  rw [sink_unrecorded]
  rcases publishTo p.sink events with ⟨sink, stop | done⟩ <;> rfl

theorem recording_publish (events : List ReducedEvent) : (p.publish events).1.recording = p.recording := by
  unfold publish
  rcases publishTo p.sink events with ⟨sink, stop | done⟩ <;> rfl

theorem publishRest_unrecorded :
    (p.unrecorded files).publishRest = (p.publishRest.1.unrecorded files, p.publishRest.2) := by
  unfold publishRest
  rw [builder_unrecorded]
  cases p.builder.flush with
  | error fault => rfl
  | ok run =>
    dsimp only
    rw [show { p.unrecorded files with builder := run.2 } = unrecorded files { p with builder := run.2 } from rfl,
      publish_unrecorded]
    rcases Processor.publish { p with builder := run.2 } run.1 with ⟨q, stop | done⟩
    · rfl
    · dsimp only
      rw [sink_unrecorded]
      cases EventSink.flush q.sink <;> rfl

theorem recording_publishRest : p.publishRest.1.recording = p.recording := by
  unfold publishRest
  cases p.builder.flush with
  | error fault => rfl
  | ok run =>
    have published := recording_publish (p := { p with builder := run.2 }) run.1
    dsimp only
    revert published
    rcases Processor.publish { p with builder := run.2 } run.1 with ⟨q, stop | done⟩ <;> intro published
    · exact published
    · dsimp only
      cases EventSink.flush q.sink <;> exact published

variable [HitRecorder δ ω]

/-- What a sender and what the caller of a processor is told. -/
inductive Answer (ε : Type)
  | sent (answer : Except Fault (Except SlotError Received))
  | stepped (answer : Except (Stop ε) Bool)

def act (p : Processor σ δ ω) : Action → Processor σ δ ω × Answer ε
  | .send payload =>
    match p.channel.send payload with
    | .error fault => (p, .sent (.error fault))
    | .ok (.error refused) => (p, .sent (.ok (.error refused)))
    | .ok (.ok (received, channel)) => ({ p with channel }, .sent (.ok (.ok received)))
  | .step =>
    let (p, answer) := p.step
    (p, .stepped answer)

/-- Acts on and on, whatever the answers are. -/
def actAll (p : Processor σ δ ω) : List Action → Processor σ δ ω × List (Answer ε)
  | [] => (p, [])
  | action :: rest =>
    let (p, answer) := p.act action
    let (p, answers) := p.actAll rest
    (p, answer :: answers)

/-- The hits of the datagrams that steps take, datagram after datagram. -/
def parsed (p : Processor σ δ ω) : List Action → List (List Hit)
  | [] => []
  | .send payload :: rest => (p.act (.send payload)).1.parsed rest
  | .step :: rest => p.next?.toList ++ (p.act .step).1.parsed rest

theorem record_unrecorded : (p.unrecorded files).record hits = (p.record hits).unrecorded files := by
  rw [show (p.unrecorded files).record hits = p.unrecorded files from rfl]
  unfold record
  split
  · rfl
  · split <;> rfl

theorem closeDump_unrecorded : (p.unrecorded files).closeDump.1 = p.closeDump.1.unrecorded files := by
  rw [show (p.unrecorded files).closeDump.1 = p.unrecorded files from rfl]
  unfold closeDump
  split
  · rfl
  · split <;> rfl

theorem handle_unrecorded (datagram : Datagram) :
    (p.unrecorded files).handle datagram = ((p.handle datagram).1.unrecorded files, (p.handle datagram).2) := by
  unfold handle
  dsimp only
  rw [show (p.unrecorded files).countErrors (parseDatagram datagram.data).2.errors =
    (p.countErrors (parseDatagram datagram.data).2.errors).unrecorded files from rfl, record_unrecorded,
    builder_unrecorded]
  generalize (p.countErrors (parseDatagram datagram.data).2.errors).record (parseDatagram datagram.data).1 = q
  cases q.builder.push (parseDatagram datagram.data).1 with
  | error fault => rfl
  | ok run => exact publish_unrecorded (p := { q with builder := run.2 }) run.1

theorem step_unrecorded : (p.unrecorded files).step = (p.step.1.unrecorded files, p.step.2) := by
  unfold step
  rw [channel_unrecorded]
  cases p.channel.pop with
  | none => rfl
  | some popped =>
    dsimp only
    rw [show { p.unrecorded files with channel := popped.2 } = unrecorded files { p with channel := popped.2 } from rfl,
      handle_unrecorded]
    rcases Processor.handle { p with channel := popped.2 } popped.1 with ⟨q, stop | done⟩ <;> rfl

theorem act_unrecorded (action : Action) :
    (p.unrecorded files).act action = ((p.act action).1.unrecorded files, (p.act action).2) := by
  cases action with
  | send payload =>
    unfold act
    dsimp only
    rw [channel_unrecorded]
    rcases p.channel.send payload with fault | refused | received <;> rfl
  | step =>
    unfold act
    rw [step_unrecorded]

/-- Nothing that a processor does or answers tells whether there is a dump. -/
theorem actAll_unrecorded (actions : List Action) :
    (p.unrecorded files).actAll actions = ((p.actAll actions).1.unrecorded files, (p.actAll actions).2) := by
  induction actions generalizing p with
  | nil => rfl
  | cons action rest ih =>
    unfold actAll
    rw [act_unrecorded]
    dsimp only
    rw [ih]

theorem poll_unrecorded (polls : Nat) :
    poll polls (p.unrecorded files) = ((poll polls p).1.unrecorded files, (poll polls p).2) := by
  induction polls generalizing p with
  | zero => rfl
  | succ polls ih =>
    unfold poll
    rw [step_unrecorded]
    rcases p.step with ⟨q, stop | idle | busy⟩
    · rfl
    · exact @ih q.countEmptyPoll
    · exact @ih q

theorem drainWithin_unrecorded (fuel : Nat) :
    drainWithin fuel (p.unrecorded files) = ((drainWithin fuel p).1.unrecorded files, (drainWithin fuel p).2) := by
  induction fuel generalizing p with
  | zero => rfl
  | succ fuel ih =>
    unfold drainWithin
    rw [step_unrecorded]
    rcases p.step with ⟨q, stop | idle | busy⟩
    · rfl
    · rfl
    · dsimp only
      rw [ih]
      rcases drainWithin fuel q with ⟨r, stop | count⟩ <;> rfl

theorem run_unrecorded (polls : Nat) (mode : ShutdownMode) :
    (p.unrecorded files).run polls mode = ((p.run polls mode).1.unrecorded files, (p.run polls mode).2) := by
  unfold run
  rw [poll_unrecorded]
  rcases poll polls p with ⟨q, stop | ended⟩
  · rfl
  · cases mode with
    | immediate => rfl
    | drain =>
      dsimp only [drain]
      rw [channel_unrecorded, drainWithin_unrecorded]
      rcases drainWithin (q.channel.queued + 1) q with ⟨r, stop | count⟩ <;> rfl

theorem finish_unrecorded : (p.unrecorded files).finish = (p.finish.1.unrecorded files, p.finish.2) := by
  unfold finish
  rw [publishRest_unrecorded]
  rcases p.publishRest with ⟨q, stop | done⟩
  · rfl
  · dsimp only
    rw [closeDump_unrecorded]

theorem recording_record (p : Processor σ δ ω) (hits : List Hit) :
    (p.record hits).recording = p.recording.write hits := by
  unfold record Recording.write
  rw [show p.recording.dump = p.dump from rfl, show p.recording.files = p.files from rfl]
  cases there : p.dump with
  | none => rfl
  | some dump =>
    dsimp only
    rcases HitRecorder.write dump p.files hits with ⟨next, files, none | error⟩ <;> rfl

theorem recording_handle (datagram : Datagram) :
    (p.handle datagram).1.recording = p.recording.write (parseDatagram datagram.data).1 := by
  have recorded := recording_record (p.countErrors (parseDatagram datagram.data).2.errors)
    (parseDatagram datagram.data).1
  unfold handle
  dsimp only
  split
  · exact recorded
  · rw [recording_publish]
    exact recorded

theorem recording_step : p.step.1.recording = p.next?.toList.foldl Recording.write p.recording := by
  unfold next?
  cases pop : p.channel.pop with
  | none =>
    rw [step_eq_of_next?_eq_none (Option.map_eq_none_iff.mpr pop)]
    rfl
  | some popped =>
    rw [(step_eq_handle pop).1, recording_handle]
    rfl

theorem recording_actAll (actions : List Action) :
    (p.actAll actions).1.recording = (p.parsed actions).foldl Recording.write p.recording := by
  induction actions generalizing p with
  | nil => rfl
  | cons action rest ih =>
    cases action with
    | send payload =>
      have same : (p.act (.send payload)).1.recording = p.recording := by
        unfold act
        dsimp only
        split <;> rfl
      rw [parsed, ← same]
      exact ih
    | step =>
      have taken : (p.act .step).1.recording = p.next?.toList.foldl Recording.write p.recording := recording_step
      rw [parsed, List.foldl_append, ← taken]
      exact ih

section Induction

variable {motive : Processor σ δ ω → Prop}

theorem poll_induction (step : ∀ p, motive p → motive p.step.1) (idle : ∀ p, motive p → motive p.countEmptyPoll)
    (start : motive p) (polls : Nat) : motive (poll polls p).1 := by
  induction polls generalizing p with
  | zero => exact start
  | succ polls ih =>
    have next := step p start
    unfold poll
    revert next
    rcases p.step with ⟨q, stop | empty | busy⟩ <;> intro next
    · exact next
    · exact ih (idle q next)
    · exact ih next

theorem drainWithin_induction (step : ∀ p, motive p → motive p.step.1) (start : motive p) (fuel : Nat) :
    motive (drainWithin fuel p).1 := by
  induction fuel generalizing p with
  | zero => exact start
  | succ fuel ih =>
    have next := step p start
    unfold drainWithin
    revert next
    rcases p.step with ⟨q, stop | empty | busy⟩ <;> intro next
    · exact next
    · exact next
    · have rest := ih next
      dsimp only
      revert rest
      rcases drainWithin fuel q with ⟨r, stop | count⟩ <;> exact id

/-- What holds after every step and every empty poll holds after a run. -/
theorem run_induction (step : ∀ p, motive p → motive p.step.1) (idle : ∀ p, motive p → motive p.countEmptyPoll)
    (start : motive p) (polls : Nat) (mode : ShutdownMode) : motive (p.run polls mode).1 := by
  have polled := poll_induction step idle start polls
  unfold run
  revert polled
  rcases poll polls p with ⟨q, stop | ended⟩ <;> intro polled
  · exact polled
  · cases mode with
    | immediate => exact polled
    | drain =>
      have drained := drainWithin_induction step polled (q.channel.queued + 1)
      dsimp only [drain]
      revert drained
      rcases drainWithin (q.channel.queued + 1) q with ⟨r, stop | count⟩ <;> exact id

end Induction

theorem failsOnce_foldl {r : Recording δ ω} (once : r.FailsOnce) (batches : List (List Hit)) :
    (batches.foldl Recording.write r).FailsOnce :=
  List.foldlRecOn batches Recording.write once fun _ once hits _ => once.write hits

theorem failsOnce_run (once : p.recording.FailsOnce) (polls : Nat) (mode : ShutdownMode) :
    (p.run polls mode).1.recording.FailsOnce := by
  refine run_induction (motive := fun p => p.recording.FailsOnce) (fun p once => ?_) (fun _ once => once) once
    polls mode
  rw [recording_step]
  exact failsOnce_foldl once _

theorem failsOnce_closeDump (once : p.recording.FailsOnce) : p.closeDump.1.recording.FailsOnce := by
  unfold closeDump
  cases there : p.dump with
  | none => exact once
  | some dump =>
    unfold recording at once
    rw [there] at once
    dsimp only
    rcases HitRecorder.finish dump p.files with ⟨files, error | parts⟩
    · exact once
    · exact Nat.le_of_succ_le once

theorem failsOnce_finish (once : p.recording.FailsOnce) : p.finish.1.recording.FailsOnce := by
  have rest : p.publishRest.1.recording.FailsOnce := recording_publishRest (p := p) ▸ once
  unfold finish
  revert rest
  rcases p.publishRest with ⟨q, stop | done⟩ <;> intro rest
  · exact rest
  · exact failsOnce_closeDump rest

/-- Whatever becomes of a dump, a processor does, answers and counts the same as if there were none, except that one
failure may be counted. Up to then the dump is given the hits of each datagram, on whatever plane they are. -/
theorem dump_only_records {dump : δ} (there : p.dump = some dump) (fresh : p.statistics.dumpErrors = 0) (files : ω)
    (actions : List Action) (polls : Nat) (mode : ShutdownMode) :
    let acted := p.actAll actions
    let ran := acted.1.run polls mode
    let ended := ran.1.finish
    (p.unrecorded files).actAll actions = (acted.1.unrecorded files, acted.2) ∧
      (acted.1.unrecorded files).run polls mode = (ran.1.unrecorded files, ran.2) ∧
      (ran.1.unrecorded files).finish = (ended.1.unrecorded files, ended.2) ∧
      acted.1.recording = (match HitRecorder.writeAll dump p.files (p.parsed actions) with
        | (dump, files, none) => ⟨some dump, files, 0⟩
        | (_, files, some _) => ⟨none, files, 1⟩) ∧
      ran.1.statistics.dumpErrors ≤ 1 ∧ ended.1.statistics.dumpErrors ≤ 1 := by
  intro acted ran ended
  have once : p.recording.FailsOnce := by
    rw [Recording.FailsOnce, recording, there, fresh]
    exact Nat.le_refl 1
  have recorded := recording_actAll (p := p) actions
  have onceActed : acted.1.recording.FailsOnce := recorded ▸ failsOnce_foldl once _
  have onceRan : ran.1.recording.FailsOnce := failsOnce_run onceActed polls mode
  refine ⟨actAll_unrecorded actions, run_unrecorded polls mode, finish_unrecorded, ?_,
    Nat.le_of_add_right_le onceRan, Nat.le_of_add_right_le (failsOnce_finish onceRan)⟩
  rw [recorded, Recording.foldl_write_some (r := p.recording) there, show p.recording.failures = 0 from fresh]
  rfl

/-- The second chunk of the dump cannot be begun, as the directory is gone. It would have held the second hit, which is
on no tracked plane. -/
theorem dump_only_records_no_directory :
    let first : List Hit := [⟨1, 0, 4, 1⟩, ⟨1, 7, 4, 1⟩, ⟨1, 1, 4, 1⟩]
    let second : List Hit := [⟨1000, 0, 5, 1⟩, ⟨1000, 1, 5, 1⟩]
    let actions : List Action := [.send (Hit.encodeAll first), .step, .send (Hit.encodeAll second), .step]
    ∃ p : Processor (List ReducedEvent) DumpWriter FileStore, p.dump.isSome ∧ p.parsed actions = [first, second] ∧
      (p.actAll actions).1.dump.isNone ∧ (p.actAll actions).1.statistics.dumpErrors = 1 ∧
      ∃ q, (p.unrecorded {}).actAll actions = (q, (p.actAll actions).2) ∧
        q.statistics.dumpErrors = 0 ∧ (q.run 0 .drain).1.finish.1.sink.length = 2 := by
  intro first second actions
  have ends : (((Channel.allocate 4 64).toOption.bind (·.toOption)).bind fun channel =>
      (EventBuilder.ofConfig {}).toOption.bind fun builder =>
        (DumpWriter.create (FileStore.makeDirectory {} "gone") "gone/run" 32).toOption.map fun created =>
          let p : Processor (List ReducedEvent) DumpWriter FileStore :=
            { channel, builder, sink := [], dump := some created.1, files := created.2.remove "gone" }
          let acted := p.actAll actions
          (p.parsed actions, acted.1.dump.isNone, acted.1.statistics.dumpErrors,
            (acted.1.run 0 .drain).1.finish.1.sink.length)) = some ([first, second], true, 1, 2) := by decide +kernel
  obtain ⟨p, some, fresh, parsed, gone, failures, published⟩ : ∃ p : Processor (List ReducedEvent) DumpWriter FileStore,
      p.dump.isSome ∧ p.statistics.dumpErrors = 0 ∧ p.parsed actions = [first, second] ∧
        (p.actAll actions).1.dump.isNone ∧ (p.actAll actions).1.statistics.dumpErrors = 1 ∧
        ((p.actAll actions).1.run 0 .drain).1.finish.1.sink.length = 2 := by
    obtain ⟨channel, _, ends⟩ := Option.bind_eq_some_iff.mp ends
    obtain ⟨builder, _, ends⟩ := Option.bind_eq_some_iff.mp ends
    obtain ⟨created, _, ends⟩ := Option.map_eq_some_iff.mp ends
    simp only [Prod.mk.injEq] at ends
    exact ⟨_, rfl, rfl, ends⟩
  obtain ⟨dump, there⟩ := Option.isSome_iff_exists.mp some
  obtain ⟨acts, runs, finishes, _⟩ := dump_only_records there fresh {} actions 0 .drain
  refine ⟨p, some, parsed, gone, failures, (p.actAll actions).1.unrecorded {}, acts, rfl, ?_⟩
  rw [runs, finishes, sink_unrecorded]
  exact published

end Processor

end EventFormation
