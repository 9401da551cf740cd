import EventFormation.Proofs.Formation.Running
import EventFormation.Proofs.Processing.Handling
import EventFormation.Proofs.Receive.Handover
import Mathlib.Algebra.Ring.Nat

namespace EventFormation

/-- What a sender and a processor that share a channel can do. -/
inductive Action
  | send (payload : List UInt8)
  | step

def Action.isSend : Action → Bool
  | send _ => true
  | step => false

/-- A processor, the payloads that were queued for it so far and how many of them it has taken. -/
structure Session (δ ω : Type) where
  processor : Processor (List ReducedEvent) δ ω
  queued : List (List UInt8) := []
  handled : Nat := 0

namespace Session

open EventBuilder (datagramCalls)
open Processor (published)

variable {δ ω : Type}

/-- The payloads that the processor has taken. -/
def taken (s : Session δ ω) : List (List UInt8) := s.queued.take s.handled

theorem length_taken {s : Session δ ω} (few : s.handled ≤ s.queued.length) : s.taken.length = s.handled := by
  rw [taken, List.length_take, Nat.min_eq_left few]

/-- A processor after so many payloads, compared with a builder that got their hits without any channel. -/
structure Refines (count size : Nat) (start : EventBuilder) (s : Session δ ω) (outcome : Except (Stop Empty) Unit) :
    Prop where
  sound : ∃ held, Channel.History.Sound count size
    { channel := s.processor.channel, sent := s.queued, popped := s.taken, held }
  few : s.handled ≤ s.queued.length
  direct : start.performAll (s.taken.flatMap datagramCalls) = published (s.processor, outcome)
  errors : s.processor.statistics.readoutErrors = (s.taken.map fun data => (parseDatagram data).2.errors).sum
  adopted : outcome = .ok () → s.processor.Adopted

variable {count size : Nat} {start : EventBuilder} {s q : Session δ ω} {outcome : Except (Stop Empty) Unit}

theorem Refines.waiting (refines : s.Refines count size start outcome) :
    s.processor.channel.queued = s.queued.length - s.handled := by
  obtain ⟨held, sound⟩ := refines.sound
  have length := sound.holds.length
  rw [length_taken refines.few] at length
  exact length

/-- What is taken next is the oldest payload that is queued. -/
theorem Refines.pop (refines : s.Refines count size start outcome) (some : s.handled < s.queued.length) :
    ∃ datagram channel held, s.processor.channel.pop = .some (datagram, channel) ∧
      s.queued.take (s.handled + 1) = s.taken ++ [datagram.data] ∧
      Channel.History.Sound count size { channel, sent := s.queued, popped := s.taken ++ [datagram.data], held } := by
  obtain ⟨held, sound⟩ := refines.sound
  have waiting : s.processor.channel.queue.pop ≠ none := by
    rw [ne_eq, sound.holds.pop_eq_none_iff, length_taken refines.few]
    exact Nat.ne_of_lt some
  have popped : ∃ datagram channel, s.processor.channel.pop = .some (datagram, channel) := by
    unfold Channel.pop
    cases pop : s.processor.channel.queue.pop with
    | none => exact absurd pop waiting
    | some next => exact ⟨_, _, rfl⟩
  obtain ⟨datagram, channel, pop⟩ := popped
  have sound := sound.pop pop
  have prefixed := sound.popped
  rw [List.length_append, List.length_singleton, length_taken refines.few] at prefixed
  exact ⟨datagram, channel, _, pop, prefixed.symm, sound⟩

theorem Refines.initial {config : FormationConfig} {channel : Channel} (new : EventBuilder.ofConfig config = .ok start)
    (several : 3 ≤ count) (some : 1 ≤ size) (allocated : Channel.allocate count size = .ok (.ok channel))
    (dump : Option δ) (files : ω) :
    Refines count size start { processor := { channel, builder := start, sink := [], dump, files } } (.ok ()) := by
  have positive : 0 < count := by omega
  have room : 0 < count - Channel.reservedSlots := by
    rw [Channel.reservedSlots]
    omega
  obtain ⟨fits, rfl⟩ := (Channel.allocate_eq_ok_iff positive room some).mp allocated
  obtain ⟨_, rfl⟩ := EventBuilder.ofConfig_eq_ok new
  exact ⟨⟨none, Channel.blank_sound positive room fits⟩, Nat.le_refl _, rfl, rfl, fun _ => ⟨rfl, rfl, rfl, rfl, rfl⟩⟩

variable [HitRecorder δ ω]

/-- A send may be refused or find the queue full, which ends nothing. -/
def act (s : Session δ ω) : Action → Session δ ω × Except (Stop Empty) Unit
  | .send payload =>
    match s.processor.channel.send payload with
    | .error reason => (s, .error (.fault reason))
    | .ok (.error _) => (s, .ok ())
    | .ok (.ok (.queued _, channel)) =>
      ({ s with processor := { s.processor with channel }, queued := s.queued ++ [payload] }, .ok ())
    | .ok (.ok (_, channel)) => ({ s with processor := { s.processor with channel } }, .ok ())
  | .step =>
    match s.processor.step with
    | (processor, .ok true) => ({ s with processor, handled := s.handled + 1 }, .ok ())
    | (processor, .ok false) => ({ s with processor }, .ok ())
    | (processor, .error stop) => ({ s with processor, handled := s.handled + 1 }, .error stop)

/-- Acts up to the first failure. -/
def actAll (s : Session δ ω) : List Action → Session δ ω × Except (Stop Empty) Unit
  | [] => (s, .ok ())
  | action :: rest =>
    match s.act action with
    | (s, .ok ()) => s.actAll rest
    | (s, .error stop) => (s, .error stop)

/-- Whatever becomes of a payload that is sent, nothing that was queued or taken before changes. -/
theorem Refines.send (refines : s.Refines count size start (.ok ())) (payload : List UInt8)
    (counted : s.queued.length + 1 < wordCount) :
    ∃ q, s.act (.send payload) = (q, .ok ()) ∧ q.Refines count size start (.ok ()) ∧ q.handled = s.handled ∧
      q.queued.length ≤ s.queued.length + 1 := by
  obtain ⟨held, sound⟩ := refines.sound
  let call : Channel.Call Empty := .send payload
  have fits : (Channel.Command.fill call).Fits size := by
    intro length report
    simp only [call, Channel.Call.reported] at report
    split at report
    · rename_i short
      cases report
      exact short
    · cases report
  obtain ⟨result, channel, fill, _⟩ := Channel.fill_filled sound.ready call fits
  have queued : (s.queued ++ call.queued s.processor.channel result).length ≤ s.queued.length + 1 := by
    rw [List.length_append]
    refine Nat.add_le_add_left ?_ _
    unfold Channel.Call.queued
    split <;> simp
  have run := sound.perform fits (by simp only [Channel.History.perform, fill]; rfl) (Nat.lt_of_le_of_lt queued counted)
  have same : (s.queued ++ call.queued s.processor.channel result).take s.handled = s.taken :=
    List.take_append_of_le_length refines.few
  let processor := { s.processor with channel }
  have after : Refines count size start
      { s with processor, queued := s.queued ++ call.queued s.processor.channel result } (.ok ()) := by
    refine ⟨⟨held, ?_⟩, ?_, ?_, ?_, fun ok => { refines.adopted ok with }⟩
    · rw [taken, same]
      exact run
    · rw [List.length_append]
      exact Nat.le_add_right_of_le refines.few
    · rw [taken, same]
      exact refines.direct
    · rw [taken, same]
      exact refines.errors
  simp only [Channel.fill, call] at fill
  cases sent : s.processor.channel.send payload with
  | error reason =>
    rw [sent] at fill
    cases fill
  | ok answer =>
    rw [sent] at fill
    cases answer with
    | error refused =>
      cases fill
      exact ⟨s, by simp only [act, sent], refines, rfl, Nat.le_succ _⟩
    | ok accepted =>
      obtain ⟨received, channel⟩ := accepted
      cases fill
      cases received with
      | queued length => exact ⟨_, by simp only [act, sent]; rfl, after, rfl, queued⟩
      | empty =>
        rw [call.queued_eq_nil _ (by simp), List.append_nil] at after
        exact ⟨_, by simp only [act, sent]; rfl, after, rfl, Nat.le_succ _⟩
      | dropped length =>
        rw [call.queued_eq_nil _ (by simp), List.append_nil] at after
        exact ⟨_, by simp only [act, sent]; rfl, after, rfl, Nat.le_succ _⟩

theorem Refines.step_idle (refines : s.Refines count size start outcome) (none : s.handled = s.queued.length) :
    s.processor.step = (s.processor, .ok false) := by
  obtain ⟨held, sound⟩ := refines.sound
  have empty := sound.holds.pop_eq_none_iff.mpr ((length_taken refines.few).trans none)
  have pop : s.processor.channel.pop = Option.none := by
    unfold Channel.pop
    rw [empty]
  unfold Processor.step
  rw [pop]

theorem Refines.step_busy (refines : s.Refines count size start (.ok ())) (some : s.handled < s.queued.length) :
    ∃ processor outcome, s.processor.step = (processor, outcome.map fun _ => true) ∧
      Refines count size start { s with processor, handled := s.handled + 1 } outcome := by
  obtain ⟨datagram, channel, held, pop, next, sound⟩ := refines.pop some
  have direct : start.performAll ((s.taken ++ [datagram.data]).flatMap datagramCalls) =
      (s.processor.builder.push (parseDatagram datagram.data).1).map fun run =>
        (s.processor.sink ++ run.1, run.2) := by
    rw [List.flatMap_append, EventBuilder.performAll_append, refines.direct, List.flatMap_singleton]
    show (s.processor.builder.performAll (datagramCalls datagram.data) >>= _) = _
    rw [EventBuilder.performAll_datagram]
    cases s.processor.builder.push (parseDatagram datagram.data).1 <;> rfl
  have errors : ((s.taken ++ [datagram.data]).map fun data => (parseDatagram data).2.errors).sum =
      s.processor.statistics.readoutErrors + (parseDatagram datagram.data).2.errors := by
    rw [List.map_append, List.sum_append, ← refines.errors]
    simp
  obtain ⟨result, run⟩ : ∃ result, Processor.handle { s.processor with channel } datagram = result := ⟨_, rfl⟩
  have handled := Processor.handle_handled { s.processor with channel } datagram
  rw [run] at handled
  unfold Processor.step
  rw [pop]
  dsimp only at run ⊢
  rw [run]
  cases handled with
  | @failed processor reason push same read =>
    refine ⟨processor, .error (.fault reason), rfl, ⟨held, ?_⟩, some, ?_, ?_, fun ok => nomatch ok⟩
    · rw [taken, next, same]
      exact sound
    · rw [taken, next, direct]
      rw [show s.processor.builder.push _ = _ from push]
      rfl
    · rw [taken, next, errors]
      exact read
  | @done processor events push same read sink adopted =>
    refine ⟨processor, .ok (), rfl, ⟨held, ?_⟩, some, ?_, ?_, fun _ => adopted⟩
    · rw [taken, next, same]
      exact sound
    · rw [taken, next, direct]
      rw [show s.processor.builder.push _ = _ from push]
      show Except.ok _ = Except.ok _
      rw [sink]
    · rw [taken, next, errors]
      exact read

theorem Refines.step (refines : s.Refines count size start (.ok ())) :
    ∃ q outcome, s.act .step = (q, outcome) ∧ q.Refines count size start outcome ∧ q.queued = s.queued := by
  rcases Nat.lt_or_eq_of_le refines.few with some | none
  · obtain ⟨processor, outcome, step, after⟩ := refines.step_busy some
    refine ⟨_, outcome, ?_, after, rfl⟩
    cases outcome <;> simp only [act, step, Except.map]
  · exact ⟨s, .ok (), by simp only [act, refines.step_idle none], refines, rfl⟩

theorem Refines.actAll (refines : s.Refines count size start (.ok ())) {actions : List Action}
    (counted : s.queued.length + actions.countP Action.isSend < wordCount) :
    ∃ q outcome, s.actAll actions = (q, outcome) ∧ q.Refines count size start outcome := by
  induction actions generalizing s with
  | nil => exact ⟨s, .ok (), rfl, refines⟩
  | cons action rest ih =>
    cases action with
    | send payload =>
      rw [List.countP_cons_of_pos rfl] at counted
      obtain ⟨next, sent, after, _, more⟩ := refines.send payload (by omega)
      obtain ⟨q, outcome, run, last⟩ := ih after (by omega)
      exact ⟨q, outcome, by simp only [Session.actAll, sent, run], last⟩
    | step =>
      rw [List.countP_cons_of_neg Bool.false_ne_true] at counted
      obtain ⟨next, outcome, stepped, after, same⟩ := refines.step
      cases outcome with
      | error stop => exact ⟨next, .error stop, by simp only [Session.actAll, stepped], after⟩
      | ok =>
        obtain ⟨q, outcome, run, last⟩ := ih after (by rw [same]; exact counted)
        exact ⟨q, outcome, by simp only [Session.actAll, stepped, run], last⟩

/-- A drain takes one payload after another until none is left. -/
theorem Refines.drainWithin (refines : s.Refines count size start (.ok ())) {fuel : Nat}
    (enough : s.queued.length < s.handled + fuel) :
    ∃ (q : Session δ ω) (outcome : Except (Stop Empty) Unit), q.queued = s.queued ∧ q.Refines count size start outcome ∧
      (outcome = .ok () → q.handled = s.queued.length) ∧
      ∃ drained, Processor.drainWithin fuel s.processor = (q.processor, outcome.map fun _ => drained) := by
  induction fuel generalizing s with
  | zero =>
    have few := refines.few
    omega
  | succ fuel ih =>
    rcases Nat.lt_or_eq_of_le refines.few with some | none
    · obtain ⟨processor, outcome, step, after⟩ := refines.step_busy some
      cases outcome with
      | error stop =>
        refine ⟨{ s with processor, handled := s.handled + 1 }, .error stop, rfl, after, fun ok => (nomatch ok), 0, ?_⟩
        simp only [Processor.drainWithin, step, Except.map]
      | ok =>
        obtain ⟨q, outcome, same, last, all, drained, run⟩ := ih after (by simp only; omega)
        refine ⟨q, outcome, same, last, all, drained + 1, ?_⟩
        simp only [Processor.drainWithin, step, Except.map, run]
        cases outcome <;> rfl
    · refine ⟨s, .ok (), rfl, refines, fun _ => none, 0, ?_⟩
      simp only [Processor.drainWithin, refines.step_idle none]
      rfl

theorem Refines.run_drain (refines : s.Refines count size start (.ok ())) :
    ∃ (q : Session δ ω) (outcome : Except (Stop Empty) Unit), q.queued = s.queued ∧ q.Refines count size start outcome ∧
      (outcome = .ok () → q.handled = s.queued.length) ∧ s.processor.run 0 .drain = (q.processor, outcome) := by
  have enough : s.queued.length < s.handled + (s.processor.channel.queued + 1) := by
    rw [refines.waiting]
    omega
  obtain ⟨q, outcome, same, last, all, drained, run⟩ := refines.drainWithin enough
  refine ⟨q, outcome, same, last, all, ?_⟩
  simp only [Processor.run, Processor.poll, Processor.drain, run]
  cases outcome <;> rfl

/-- However sends and steps follow each other, a processor publishes what a builder returns that gets the hits of
the queued datagrams directly, one datagram after another, and it fails where that builder does. -/
theorem refines_direct {config : FormationConfig} {channel : Channel} (valid : config.check = .ok ())
    (several : 3 ≤ count) (some : 1 ≤ size) (allocated : Channel.allocate count size = .ok (.ok channel))
    (dump : Option δ) (files : ω) (actions : List Action) (counted : actions.countP Action.isSend < wordCount) :
    ∃ start, EventBuilder.ofConfig config = .ok start ∧ ∃ (s : Session δ ω) (outcome : Except (Stop Empty) Unit),
      actAll { processor := { channel, builder := start, sink := [], dump, files } } actions = (s, outcome) ∧
      start.performAll (s.taken.flatMap datagramCalls) = published (s.processor, outcome) ∧
      s.processor.statistics.readoutErrors = (s.taken.map fun data => (parseDatagram data).2.errors).sum ∧
      (outcome = .ok () →
        s.processor.Adopted ∧
        s.processor.channel.queued = s.queued.length - s.taken.length ∧
        (s.processor.step.2 = .ok false ↔ s.processor.channel.queued = 0) ∧
        s.processor.run 0 .immediate = (s.processor, .ok ()) ∧
        start.performAll (s.queued.flatMap datagramCalls) = published (s.processor.run 0 .drain) ∧
        ((s.processor.run 0 .drain).2 = .ok () → (s.processor.run 0 .drain).1.channel.queued = 0) ∧
        published s.processor.finish =
          s.processor.builder.flush.map fun last => (s.processor.sink ++ last.1, last.2)) := by
  obtain ⟨start, new⟩ := EventBuilder.ofConfig_total valid
  have initial := Refines.initial new several some allocated dump files
  have few : ([] : List (List UInt8)).length + actions.countP Action.isSend < wordCount := by simpa using counted
  obtain ⟨s, outcome, run, refines⟩ := initial.actAll few
  refine ⟨start, new, s, outcome, run, refines.direct, refines.errors, ?_⟩
  rintro rfl
  obtain ⟨q, last, same, drained, all, drain⟩ := refines.run_drain
  refine ⟨refines.adopted rfl, ?_, ?_, rfl, ?_, ?_, s.processor.finish_published⟩
  · rw [refines.waiting, length_taken refines.few]
  · rw [refines.waiting]
    rcases Nat.lt_or_eq_of_le refines.few with busy | idle
    · obtain ⟨processor, outcome, step, _⟩ := refines.step_busy busy
      have waiting : s.queued.length - s.handled ≠ 0 := by omega
      cases outcome <;> simp [step, waiting, Except.map]
    · simp [refines.step_idle idle, idle]
  · rw [drain]
    have split := List.take_append_drop q.handled q.queued
    rw [← same, ← split, List.flatMap_append, EventBuilder.performAll_append]
    have direct := drained.direct
    rw [taken] at direct
    rw [direct]
    cases last with
    | error stop => rfl
    | ok =>
      rw [all rfl, ← same, List.drop_length]
      show Except.ok _ = Except.ok _
      rw [List.append_nil]
  · intro ended
    rw [drain] at ended ⊢
    rw [drained.waiting, same, all ended, Nat.sub_self]

/-- Two datagrams of hits and one that is cut off, through four slots, with a step too many at the end. -/
theorem refines_direct_three :
    let first := Hit.encodeAll [⟨1, 0, 4, 1⟩, ⟨1, 1, 4, 1⟩]
    let second := Hit.encodeAll [⟨1000, 0, 4, 1⟩, ⟨1000, 1, 4, 1⟩]
    let actions : List Action := [.send first, .step, .send [1, 2, 3], .send second, .step, .step, .step]
    ∃ channel start, ∃ s : Session DumpWriter FileStore, Channel.allocate 4 32 = .ok (.ok channel) ∧
      EventBuilder.ofConfig {} = .ok start ∧
      actAll { processor := { channel, builder := start, sink := [], dump := none, files := {} } } actions =
        (s, .ok ()) ∧
      s.taken = [first, [1, 2, 3], second] ∧ s.processor.statistics.readoutErrors = 1 ∧
      start.performAll ([first, [1, 2, 3], second].flatMap datagramCalls) =
        .ok (s.processor.sink, s.processor.builder) := by
  intro first second actions
  have ends : (((Channel.allocate 4 32).toOption.bind (·.toOption)).bind fun channel =>
      (EventBuilder.ofConfig {}).toOption.bind fun start =>
        let session : Session DumpWriter FileStore :=
          { processor := { channel, builder := start, sink := [], dump := none, files := {} } }
        (session.actAll actions).2.toOption.map fun _ => ((session.actAll actions).1.taken,
          (session.actAll actions).1.processor.statistics.readoutErrors)) =
      some ([first, [1, 2, 3], second], 1) := by decide +kernel
  obtain ⟨channel, allocated, ends⟩ := Option.bind_eq_some_iff.mp ends
  obtain ⟨inner, outer, allocated⟩ := Option.bind_eq_some_iff.mp allocated
  have allocated : Channel.allocate 4 32 = .ok (.ok channel) := by
    rw [eq_ok_of_toOption outer, eq_ok_of_toOption allocated]
  have valid : FormationConfig.check {} = .ok () := rfl
  obtain ⟨start, new, s, outcome, run, direct, errors, _⟩ := refines_direct valid (by decide) (by decide) allocated
    (none : Option DumpWriter) ({} : FileStore) actions (by decide +kernel)
  rw [new] at ends
  obtain ⟨_, ended, equal⟩ := Option.map_eq_some_iff.mp ends
  rw [run] at ended equal
  have outcome := eq_ok_of_toOption ended
  obtain ⟨taken, counted⟩ := Prod.ext_iff.mp equal
  dsimp only at taken counted outcome
  subst outcome
  rw [taken] at direct
  exact ⟨channel, start, s, allocated, new, run, taken, counted, direct⟩

end Session

end EventFormation
