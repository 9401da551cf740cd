import EventFormation.Proofs.Matching.Conservation
import EventFormation.Proofs.Matching.Horizon

namespace EventFormation

namespace Pass

/-- What is not ready is still queued, in its order, and only ready clusters are deferred. -/
structure Waiting (t : Terms) (queue : List Cluster) (p : Pass) : Prop where
  late : p.queue.filter (!t.ready ·) = queue.filter (!t.ready ·)
  deferred : ∀ c ∈ p.deferred.toList, t.ready c = true

variable {t : Terms} {planes : List UInt8} {queue : List Cluster} {p q : Pass}

theorem Waiting.start (t : Terms) (queue : List Cluster) (planes : List UInt8) :
    Waiting t queue { queue, event := Event.ofPlanes planes } where
  late := rfl
  deferred := by simp

theorem Step.keeps_waiting (step : Step t p q) (waiting : Waiting t queue p) : Waiting t queue q := by
  cases step with
  | close filled =>
    refine ⟨?_, by simp [Pass.close]⟩
    have none : p.deferred.toList.filter (!t.ready ·) = [] := by
      rw [List.filter_eq_nil_iff]
      intro c member
      simp [waiting.deferred c member]
    rw [← waiting.late]
    simp only [Pass.close, List.filter_append, none, List.nil_append]
  | @join front rest joined inFront ready join =>
    refine ⟨?_, waiting.deferred⟩
    rw [← waiting.late, inFront, List.filter_cons_of_neg (by simp [ready])]
  | @prefer front before closer after joined inFront ready near filled join =>
    constructor
    · rw [← waiting.late, inFront, List.filter_cons_of_neg (by simp [ready]), List.filter_append,
        List.filter_append, List.filter_cons_of_neg (by simp [near])]
    · intro c member
      rw [Series.toList_push, List.mem_append, List.mem_singleton] at member
      rcases member with old | rfl
      · exact waiting.deferred c old
      · exact ready

theorem walk_waiting (distinct : planes.Nodup) (tracked : ∀ c ∈ queue, c.Tracked planes)
    (run : walk t { queue, event := Event.ofPlanes planes } = .ok q) : Waiting t queue q := by
  refine (walkWithin_induction (fun p => p.Sound planes ∧ Waiting t queue p) ?_ ?_ run).2
  · intro p move ⟨sound, waiting⟩ next
    have step := next.step sound
    exact ⟨step.sound sound, step.keeps_waiting waiting⟩
  · exact ⟨.start distinct tracked, .start t queue planes⟩

end Pass

namespace Matcher

variable {m q : Matcher}

/-- A poll takes only final clusters into events, and leaves all others as they are. -/
theorem Matched.poll_final (matched : Matched m false q) (distinct : m.planes.Nodup)
    (tracked : ∀ c ∈ m.unmatched, c.Tracked m.planes) :
    ∃ closed, q.events = m.events ++ closed ∧ (∀ e ∈ closed, ∀ c ∈ e.drain, m.isReady c = true) ∧
      (q.unmatched.filter (!m.isReady ·)).Perm (m.unmatched.filter (!m.isReady ·)) := by
  cases matched with
  | skipped idle => exact ⟨[], by simp, by simp, .refl _⟩
  | @walked maxSpan pass some enough spans run walked =>
    have inTracked := sortByEnd_tracked tracked
    have final := fun e => isReady_of_drained (e := e) walked (Pass.walk_ready distinct inTracked run)
    have waiting := Pass.walk_waiting distinct inTracked run
    have none (clusters : List Cluster) (ready : ∀ c ∈ clusters, m.isReady c = true) :
        clusters.filter (!m.isReady ·) = [] :=
      List.filter_eq_nil_iff.mpr fun c member => by simp [ready c member]
    refine ⟨_, rfl, fun e member c => ?_, ?_⟩
    · exact final e (List.mem_cons_of_mem _ (by simpa [Pass.events] using member))
    · have late : pass.queue.filter (!m.isReady ·) = (sortByEnd m.unmatched).filter (!m.isReady ·) := by
        simpa only [ready_terms, Bool.false_or] using waiting.late
      have inEvent := none pass.event.drain fun c => final pass.event List.mem_cons_self
      have deferred := none pass.deferred.toList fun c member => by
        simpa only [ready_terms, Bool.false_or] using waiting.deferred c member
      simp only [Pass.remaining, Bool.false_eq_true, if_false, List.filter_append, inEvent, deferred,
        List.append_nil, late]
      exact (sortByEnd_perm m.unmatched).filter _

/-- The latest start of the clusters of a plane, zero if there is none. -/
def latestStart (plane : UInt8) (clusters : List Cluster) : UInt64 :=
  ((clusters.filter (·.plane == some plane)).map (·.timeStart)).foldl max 0

theorem latestStart_append (plane : UInt8) (clusters added : List Cluster) :
    latestStart plane (clusters ++ added) =
      ((added.filter (·.plane == some plane)).map (·.timeStart)).foldl max (latestStart plane clusters) := by
  rw [latestStart, latestStart, List.filter_append, List.map_append, List.foldl_append]

theorem advance_eq_map {planes : List UInt8} (distinct : planes.Nodup) (plane : UInt8) (starts : List UInt64)
    (latest : UInt8 → UInt64) :
    advance plane starts (planes.map fun p => (p, latest p)) =
      planes.map fun p => (p, if p = plane then starts.foldl max (latest p) else latest p) := by
  induction planes with
  | nil => rfl
  | cons first rest ih =>
    obtain ⟨fresh, apart⟩ := List.nodup_cons.mp distinct
    rw [List.map_cons, List.map_cons, advance]
    by_cases same : first = plane
    · rw [if_pos (by simpa using same), if_pos same]
      congr 1
      refine List.map_congr_left fun p member => ?_
      rw [if_neg fun again => fresh (by rwa [same, ← again])]
    · rw [if_neg (by simpa using same), if_neg same, ih apart]

/-- A plane moves on with the clusters that are queued on it. -/
theorem insert_advances (m : Matcher) (plane : UInt8) (clusters : List Cluster) :
    ∃ own, (m.insert plane clusters).unmatched = m.unmatched ++ own ∧ (∀ c ∈ own, c.plane = some plane) ∧
      (m.insert plane clusters).progress = advance plane (own.map (·.timeStart)) m.progress := by
  unfold Matcher.insert
  split
  · rw [List.partition_eq_filter_filter]
    refine ⟨_, rfl, fun c member => ?_, rfl⟩
    simpa using (List.mem_filter.mp member).2
  · exact ⟨[], by simp, by simp, (advance_nil plane m.progress).symm⟩

theorem insertCluster_advances (m : Matcher) (c : Cluster) :
    ∃ plane own, (m.insertCluster c).unmatched = m.unmatched ++ own ∧ (∀ d ∈ own, d.plane = some plane) ∧
      (m.insertCluster c).progress = advance plane (own.map (·.timeStart)) m.progress := by
  unfold Matcher.insertCluster
  split
  · exact ⟨_, m.insert_advances _ _⟩
  · exact ⟨0, [], by simp, by simp, (advance_nil 0 m.progress).symm⟩

end Matcher

namespace Ledger

open Matcher (Command)

/-- A balanced matcher that has kept the configured latency and has on every plane come to the latest
start of the clusters accepted on it. -/
structure Timed (config : MatchConfig) (commands : List Command) (l : Ledger) : Prop where
  balanced : Balanced config.planes commands l
  latency : l.matcher.latency = config.latency
  progress : l.matcher.progress = config.planes.map fun plane =>
    (plane, Matcher.latestStart plane (commands.flatMap (·.accepted config.planes)))

/-- All that a command can do to a matcher. -/
inductive Performed (l : Ledger) : Command → Ledger → Prop
  | queued {command m plane own} : l.matcher.Queued m command → m.unmatched = l.matcher.unmatched ++ own →
      (∀ c ∈ own, c.plane = some plane) →
      m.progress = Matcher.advance plane (own.map (·.timeStart)) l.matcher.progress →
      Performed l command { l with matcher := m }
  | matched {command m flushing} : command.clusters = [] → l.matcher.Matched flushing m →
      Performed l command { l with matcher := m }
  | taken : Performed l .take { matcher := l.matcher.take.2, taken := l.taken ++ l.matcher.take.1 }

variable {config : MatchConfig} {before : List Command} {command : Command} {l q : Ledger}

theorem Timed.queue (timed : Timed config before l) (distinct : config.planes.Nodup) {m : Matcher}
    (queued : l.matcher.Queued m command) (faithful : ∀ c ∈ command.clusters, c.Faithful) {plane : UInt8}
    {own : List Cluster} (added : m.unmatched = l.matcher.unmatched ++ own) (on : ∀ c ∈ own, c.plane = some plane)
    (progress : m.progress = Matcher.advance plane (own.map (·.timeStart)) l.matcher.progress) :
    Timed config (before ++ [command]) { l with matcher := m } where
  balanced := timed.balanced.queue queued faithful
  latency := queued.latency.trans timed.latency
  progress := by
    have accepted : own = command.accepted config.planes := by
      rw [queued.unmatched, timed.balanced.spanning] at added
      exact (List.append_cancel_left added).symm
    rw [progress, timed.progress, Matcher.advance_eq_map distinct, List.flatMap_append, List.flatMap_singleton,
      ← accepted]
    refine List.map_congr_left fun p _ => ?_
    rw [Matcher.latestStart_append]
    by_cases same : p = plane
    · rw [if_pos same, List.filter_eq_self.mpr fun c member => by simp [on c member, same]]
    · have none : own.filter (·.plane == some p) = [] := by
        rw [List.filter_eq_nil_iff]
        intro c member
        simpa [on c member] using fun again => same again.symm
      rw [if_neg same, none]
      rfl

theorem Timed.settle (timed : Timed config before l) {m : Matcher} {events : List Event}
    (settled : l.matcher.Settled m events) (idle : command.clusters = []) :
    Timed config (before ++ [command]) { l with matcher := m } where
  balanced := timed.balanced.settle settled idle
  latency := settled.latency.trans timed.latency
  progress := by
    rw [(flatMap_idle config.planes before idle).1, settled.progress, timed.progress]

theorem Timed.tracked (timed : Timed config before l) :
    ∀ c ∈ l.matcher.unmatched, c.Tracked l.matcher.planes := by
  rw [timed.balanced.spanning]
  exact timed.balanced.queued

theorem Timed.nodup_planes (timed : Timed config before l) (distinct : config.planes.Nodup) :
    l.matcher.planes.Nodup := by
  rwa [timed.balanced.spanning]

theorem Timed.matchQueue (timed : Timed config before l) (distinct : config.planes.Nodup) {flushing : Bool}
    {m : Matcher} (run : l.matcher.matchQueue flushing = .ok m) : l.matcher.Matched flushing m :=
  Matcher.matchQueue_matched (timed.nodup_planes distinct) timed.tracked run

theorem Timed.performed (timed : Timed config before l) (distinct : config.planes.Nodup)
    (faithful : ∀ c ∈ command.clusters, c.Faithful) (run : l.perform command = .ok q) : l.Performed command q := by
  cases command with
  | insert plane clusters =>
    cases run
    obtain ⟨own, added, on, progress⟩ := l.matcher.insert_advances plane clusters
    exact .queued (Matcher.insert_queued plane clusters faithful) added on progress
  | insertCluster c =>
    cases run
    obtain ⟨plane, own, added, on, progress⟩ := l.matcher.insertCluster_advances c
    exact .queued (Matcher.insertCluster_queued c (faithful c List.mem_cons_self)) added on progress
  | poll =>
    obtain ⟨m, step, run⟩ := bind_eq_ok_iff.mp run
    cases run
    exact .matched rfl (timed.matchQueue distinct step)
  | flush =>
    obtain ⟨m, step, run⟩ := bind_eq_ok_iff.mp run
    cases run
    exact .matched rfl (timed.matchQueue distinct step)
  | take =>
    cases run
    exact .taken

theorem Timed.perform (timed : Timed config before l) (distinct : config.planes.Nodup)
    (faithful : ∀ c ∈ command.clusters, c.Faithful) (run : l.perform command = .ok q) :
    Timed config (before ++ [command]) q := by
  cases timed.performed distinct faithful run with
  | queued queued added on progress => exact timed.queue distinct queued faithful added on progress
  | matched idle matched =>
    obtain ⟨events, settled⟩ := matched.settled timed.tracked
    exact timed.settle settled idle
  | taken =>
    refine ⟨timed.balanced.take, timed.latency, ?_⟩
    rw [(flatMap_idle config.planes before (rfl : Command.take.clusters = [])).1]
    exact timed.progress

theorem Timed.performAll (timed : Timed config before l) (distinct : config.planes.Nodup)
    {commands : List Command} (faithful : ∀ c ∈ commands.flatMap (·.clusters), c.Faithful)
    (run : l.performAll commands = .ok q) : Timed config (before ++ commands) q := by
  induction commands generalizing before l with
  | nil =>
    cases run
    rwa [List.append_nil]
  | cons command rest ih =>
    obtain ⟨next, step, run⟩ := performAll_cons_eq_ok.mp run
    have moved := timed.perform distinct (fun c member => faithful c (by simp [member])) step
    rw [List.append_cons]
    exact ih moved (fun c member => faithful c (by rw [List.flatMap_cons]; exact List.mem_append_right _ member)) run

theorem Timed.start {rule : JoinRule} {start : Matcher} (new : Matcher.ofRule rule config = .ok start) :
    config.check = .ok () ∧ Timed config [] { matcher := start } := by
  obtain ⟨_, valid, new⟩ := bind_eq_ok_iff.mp new
  cases new
  refine ⟨valid, ⟨?_, .refl [], by simp, by simp [closed], rfl, rfl⟩, rfl, rfl⟩
  simp [Matcher.planes, Function.comp_def]

theorem Timed.latest? (timed : Timed config before l) {plane : UInt8} (tracked : plane ∈ config.planes) :
    l.matcher.latest? plane =
      some (Matcher.latestStart plane (before.flatMap (·.accepted config.planes))) := by
  have found : config.planes.find? (fun p => p == plane) = some plane := by
    have some : (config.planes.find? (fun p => p == plane)).isSome :=
      List.find?_isSome.mpr ⟨plane, tracked, beq_self_eq_true plane⟩
    obtain ⟨other, same⟩ := Option.isSome_iff_exists.mp some
    have equal : (other == plane) = true := List.find?_some (p := fun p => p == plane) same
    rwa [eq_of_beq equal] at same
  rw [Matcher.latest?, timed.progress, List.find?_map]
  simp only [Function.comp_def, found, Option.map_some]

/-- Whatever a matcher was given, in whatever order it came, a poll closes no event with a cluster that
ends within the latency of the horizon, and each cluster that does is still queued as it was. -/
theorem poll_only_ready (rule : JoinRule) (config : MatchConfig) (commands : List Command)
    (built : ∀ c ∈ commands.flatMap (·.clusters), c.Built) {start m : Matcher} {l : Ledger}
    (new : Matcher.ofRule rule config = .ok start) (run : performAll { matcher := start } commands = .ok l)
    (poll : l.matcher.poll = .ok m) :
    let latest plane := Matcher.latestStart plane (commands.flatMap (·.accepted config.planes))
    let late c := decide (ticksSince c.timeEnd l.matcher.horizon ≤ config.latency.toNat)
    (∀ plane ∈ config.planes, l.matcher.latest? plane = some (latest plane)) ∧
      (config.planes.map latest).min? = some l.matcher.horizon ∧
      ∃ closed, m.events = l.matcher.events ++ closed ∧
        (∀ e ∈ closed, ∀ slot ∈ e.populated,
          ticksSince slot.2.timeEnd l.matcher.horizon > config.latency.toNat) ∧
        (m.unmatched.filter late).Perm (l.matcher.unmatched.filter late) := by
  intro latest late
  obtain ⟨valid, timed⟩ := Timed.start new
  have checked := MatchConfig.planesChecked_of_check valid
  replace timed := timed.performAll checked.distinct (fun c member => (built c member).faithful) run
  rw [List.nil_append] at timed
  have spanning := timed.balanced.spanning
  have isLate : (!l.matcher.isReady ·) = late := by
    funext c
    rw [Bool.eq_iff_iff]
    simp [Matcher.isReady, late, timed.latency]
  obtain ⟨closed, events, final, kept⟩ :=
    (timed.matchQueue checked.distinct poll).poll_final (by rw [spanning]; exact checked.distinct) timed.tracked
  refine ⟨fun plane tracked => timed.latest? tracked, ?_, closed, events, ?_, by rwa [isLate] at kept⟩
  · have reached : l.matcher.progress.map (·.2) = config.planes.map latest := by
      simp [timed.progress, latest, Function.comp_def]
    rw [Matcher.horizon, reached]
    obtain ⟨least, atLeast⟩ := Option.isSome_iff_exists.mp
      (List.isSome_min?_of_ne_nil (show config.planes.map latest ≠ [] by simpa using checked.some))
    rw [atLeast]
    rfl
  · intro e member slot inside
    have ready := final e member slot.2 (List.mem_map_of_mem inside)
    simpa [Matcher.isReady, timed.latency] using ready

/-- Three tracks come in no order. A poll closes the first one, puts back the second, which is final and
may still be joined, and leaves the last one as it is. -/
theorem poll_only_ready_tracks :
    let config : MatchConfig := { latency := 500 }
    let commands := [(1900, 1), (1000, 0), (1, 0), (1900, 0), (1, 1), (1000, 1)].map fun (time, plane) =>
      Command.insertCluster (.ofHits [⟨time, plane, 4, 1⟩])
    ∃ start l m, Matcher.ofRule (MatchPolicy.endProximity 200).rule config = .ok start ∧
      performAll { matcher := start } commands = .ok l ∧ l.matcher.poll = .ok m ∧
      l.matcher.horizon = 1900 ∧ m.events.map (·.timeEnd) = [1] ∧
      m.unmatched.map (·.timeEnd) = [1900, 1900, 1000, 1000] ∧
      (∀ e ∈ m.events, ∀ slot ∈ e.populated, ticksSince slot.2.timeEnd 1900 > 500) ∧
      (m.unmatched.filter fun c => decide (ticksSince c.timeEnd 1900 ≤ 500)).Perm
        (l.matcher.unmatched.filter fun c => decide (ticksSince c.timeEnd 1900 ≤ 500)) := by
  intro config commands
  have runs : ((Matcher.ofRule (MatchPolicy.endProximity 200).rule config).toOption.bind fun start =>
      (performAll { matcher := start } commands).toOption.bind fun l => l.matcher.poll.toOption.map fun m =>
        (l.matcher.horizon, l.matcher.events.isEmpty, m.events.map (·.timeEnd), m.unmatched.map (·.timeEnd))) =
      some (1900, true, [1], [1900, 1900, 1000, 1000]) := by decide +kernel
  obtain ⟨start, new, runs⟩ := Option.bind_eq_some_iff.mp runs
  obtain ⟨l, run, runs⟩ := Option.bind_eq_some_iff.mp runs
  obtain ⟨m, poll, values⟩ := Option.map_eq_some_iff.mp runs
  simp only [Prod.mk.injEq] at values
  obtain ⟨horizon, fresh, events, queued⟩ := values
  have new := eq_ok_of_toOption new
  have run := eq_ok_of_toOption run
  have poll := eq_ok_of_toOption poll
  obtain ⟨_, _, closed, added, final, kept⟩ := poll_only_ready (MatchPolicy.endProximity 200).rule config commands
    (by simp [commands, Command.clusters, Cluster.Built.ofHits]) new run poll
  rw [List.isEmpty_iff.mp fresh, List.nil_append] at added
  rw [horizon] at final kept
  exact ⟨start, l, m, new, run, poll, horizon, events, queued, by rwa [added], kept⟩

end Ledger

end EventFormation
