import EventFormation.Proofs.Config.Checked
import EventFormation.Proofs.Matching.Commands
import EventFormation.Proofs.Matching.Polls

namespace EventFormation

/-- A matcher with all events that were ever taken from it. -/
structure Ledger where
  matcher : Matcher
  taken : List Event := []

namespace Ledger

open Matcher (Command)

/-- All events closed so far. -/
def closed (l : Ledger) : List Event := l.taken ++ l.matcher.events

def perform (l : Ledger) : Command → Except Fault Ledger
  | .insert plane clusters => .ok { l with matcher := l.matcher.insert plane clusters }
  | .insertCluster c => .ok { l with matcher := l.matcher.insertCluster c }
  | .poll => do return { l with matcher := ← l.matcher.poll }
  | .flush => do return { l with matcher := ← l.matcher.flush }
  | .take => .ok { matcher := l.matcher.take.2, taken := l.taken ++ l.matcher.take.1 }

def performAll (l : Ledger) (commands : List Command) : Except Fault Ledger := commands.foldlM perform l

/-- Every accepted cluster is in one queued cluster or in one slot of one closed event, as a whole,
and every refused one is counted. -/
structure Balanced (planes : List UInt8) (commands : List Command) (l : Ledger) : Prop where
  spanning : l.matcher.planes = planes
  gathered : Gathered (commands.flatMap (·.accepted planes))
    (l.matcher.unmatched ++ l.closed.flatMap Event.drain)
  queued : ∀ c ∈ l.matcher.unmatched, c.Tracked planes
  sound : ∀ e ∈ l.closed, e.Sound ∧ e.planes = planes ∧ e.hits ≠ []
  counted : l.matcher.eventCount = l.closed.length
  refused : l.matcher.rejected = (commands.flatMap (·.refused planes)).length

variable {planes : List UInt8} {before : List Command} {command : Command} {l q : Ledger}

theorem performAll_cons_eq_ok {rest : List Command} :
    l.performAll (command :: rest) = .ok q ↔ ∃ next, l.perform command = .ok next ∧ next.performAll rest = .ok q := by
  rw [performAll, List.foldlM_cons]
  exact bind_eq_ok_iff

theorem Balanced.queue (balanced : Balanced planes before l) {m : Matcher}
    (queued : l.matcher.Queued m command) (faithful : ∀ c ∈ command.clusters, c.Faithful) :
    Balanced planes (before ++ [command]) { l with matcher := m } where
  spanning := queued.planes.trans balanced.spanning
  gathered := by
    have both := balanced.gathered.append (.refl (command.accepted planes))
    rw [List.flatMap_append, List.flatMap_singleton]
    refine both.perm_right ?_
    rw [← Multiset.coe_eq_coe]
    simp only [closed, queued.unmatched, queued.events, balanced.spanning, ← Multiset.coe_add]
    abel
  queued := by
    intro c member
    rw [queued.unmatched, List.mem_append] at member
    rcases member with old | new
    · exact balanced.queued c old
    obtain ⟨handed, accepts⟩ := List.mem_filter.mp new
    have plane := (faithful c handed).plane
    rw [balanced.spanning] at accepts
    refine ⟨faithful c handed, ?_⟩
    cases command with
    | insert p clusters =>
      simp only [Command.accepts, decide_eq_true_eq] at accepts
      exact ⟨p, accepts.1, (plane p).mpr accepts.2⟩
    | insertCluster d =>
      simp only [Command.accepts, decide_eq_true_eq] at accepts
      obtain ⟨filled, p, tracked, all⟩ := accepts
      exact ⟨p, tracked, (plane p).mpr ⟨filled, all⟩⟩
    | poll => cases handed
    | flush => cases handed
    | take => cases handed
  sound := by
    simp only [closed, queued.events]
    exact balanced.sound
  counted := by
    simp only [closed, queued.events, queued.counted]
    exact balanced.counted
  refused := by
    rw [queued.rejected, balanced.refused, balanced.spanning, List.flatMap_append, List.length_append,
      List.flatMap_singleton]

/-- A command that hands nothing in accepts and refuses nothing. -/
theorem flatMap_idle (planes : List UInt8) (before : List Command) (idle : command.clusters = []) :
    (before ++ [command]).flatMap (·.accepted planes) = before.flatMap (·.accepted planes) ∧
    (before ++ [command]).flatMap (·.refused planes) = before.flatMap (·.refused planes) := by
  simp [Command.accepted, Command.refused, idle]

theorem Balanced.settle (balanced : Balanced planes before l) {m : Matcher} {events : List Event}
    (settled : l.matcher.Settled m events) (idle : command.clusters = []) :
    Balanced planes (before ++ [command]) { l with matcher := m } := by
  obtain ⟨accepted, refused⟩ := flatMap_idle planes before idle
  have spanning := balanced.spanning
  constructor
  · rw [Matcher.planes, settled.progress]
    exact spanning
  · rw [accepted]
    have rest := settled.gathered.append (.refl (l.closed.flatMap Event.drain))
    refine (balanced.gathered.trans rest).perm_right ?_
    rw [← Multiset.coe_eq_coe]
    simp only [closed, settled.events, List.flatMap_append, ← Multiset.coe_add]
    abel
  · rw [← spanning]
    exact settled.queued
  · intro e member
    simp only [closed, settled.events, List.mem_append] at member
    rcases member with taken | old | new
    · exact balanced.sound e (List.mem_append_left _ taken)
    · exact balanced.sound e (List.mem_append_right _ old)
    · rw [← spanning]
      exact settled.sound e new
  · have counted := balanced.counted
    simp only [closed, settled.events, settled.counted, List.length_append] at counted ⊢
    omega
  · rw [refused, settled.rejected, balanced.refused]

theorem Balanced.take (balanced : Balanced planes before l) :
    Balanced planes (before ++ [.take])
      { matcher := l.matcher.take.2, taken := l.taken ++ l.matcher.take.1 } := by
  obtain ⟨accepted, refused⟩ := flatMap_idle planes before (rfl : Command.take.clusters = [])
  have closed : closed { matcher := l.matcher.take.2, taken := l.taken ++ l.matcher.take.1 } = l.closed :=
    List.append_nil _
  constructor
  · exact balanced.spanning
  · rw [accepted, closed]
    exact balanced.gathered
  · exact balanced.queued
  · rw [closed]
    exact balanced.sound
  · rw [closed]
    exact balanced.counted
  · rw [refused]
    exact balanced.refused

section Runs

variable {pool : List Hit}

theorem Balanced.inside (balanced : Balanced planes before l)
    (within : (before.flatMap (·.clusters)).flatMap Cluster.hits ⊆ pool) :
    l.matcher.unmatched.flatMap Cluster.hits ⊆ pool := by
  intro hit member
  have kept : hit ∈ (l.matcher.unmatched ++ l.closed.flatMap Event.drain).flatMap Cluster.hits := by
    rw [List.flatMap_append]
    exact List.mem_append_left _ member
  obtain ⟨c, accepted, atHit⟩ := List.mem_flatMap.mp (balanced.gathered.hits_perm.symm.subset kept)
  obtain ⟨command, given, chosen⟩ := List.mem_flatMap.mp accepted
  have handed : c ∈ before.flatMap (·.clusters) :=
    List.mem_flatMap.mpr ⟨command, given, (List.mem_filter.mp chosen).1⟩
  exact within (List.mem_flatMap.mpr ⟨c, handed, atHit⟩)

theorem Balanced.matchQueue (balanced : Balanced planes before l) (distinct : planes.Nodup)
    (answers : l.matcher.rule.Answers pool) (limited : ClockLimited pool)
    (within : (before.flatMap (·.clusters)).flatMap Cluster.hits ⊆ pool) (flushing : Bool) :
    ∃ m events, l.matcher.matchQueue flushing = .ok m ∧ l.matcher.Matched flushing m ∧
      l.matcher.Settled m events := by
  have apart : l.matcher.planes.Nodup := by rwa [balanced.spanning]
  have tracked : ∀ c ∈ l.matcher.unmatched, c.Tracked l.matcher.planes := by
    rw [balanced.spanning]
    exact balanced.queued
  obtain ⟨m, run⟩ := Matcher.matchQueue_total flushing answers limited apart tracked (balanced.inside within)
  have matched := Matcher.matchQueue_matched apart tracked run
  obtain ⟨events, settled⟩ := matched.settled tracked
  exact ⟨m, events, run, matched, settled⟩

/-- No command fails or upsets the balance, and a flush empties the queue. -/
theorem Balanced.perform (balanced : Balanced planes before l) (distinct : planes.Nodup)
    (answers : l.matcher.rule.Answers pool) (limited : ClockLimited pool) (command : Command)
    (faithful : ∀ c ∈ command.clusters, c.Faithful)
    (within : (before.flatMap (·.clusters)).flatMap Cluster.hits ⊆ pool) :
    ∃ q, l.perform command = .ok q ∧ Balanced planes (before ++ [command]) q ∧
      q.matcher.rule = l.matcher.rule ∧ (command = .flush → q.matcher.unmatched = []) := by
  have settle := balanced.matchQueue distinct answers limited within
  cases command with
  | insert plane clusters =>
    have queued := Matcher.insert_queued (m := l.matcher) plane clusters faithful
    exact ⟨_, rfl, balanced.queue queued faithful, queued.rule, by simp⟩
  | insertCluster c =>
    have queued := Matcher.insertCluster_queued (m := l.matcher) c (faithful c (by simp [Command.clusters]))
    exact ⟨_, rfl, balanced.queue queued faithful, queued.rule, by simp⟩
  | poll =>
    obtain ⟨m, events, run, _, settled⟩ := settle false
    refine ⟨{ l with matcher := m }, ?_, balanced.settle settled rfl, settled.rule, by simp⟩
    simp only [Ledger.perform, Matcher.poll, run]
    rfl
  | flush =>
    obtain ⟨m, events, run, matched, settled⟩ := settle true
    refine ⟨{ l with matcher := m }, ?_, balanced.settle settled rfl, settled.rule,
      fun _ => matched.unmatched_eq_nil⟩
    simp only [Ledger.perform, Matcher.flush, run]
    rfl
  | take => exact ⟨_, rfl, balanced.take, rfl, by simp⟩

theorem Balanced.performAll (balanced : Balanced planes before l) (distinct : planes.Nodup)
    (answers : l.matcher.rule.Answers pool) (limited : ClockLimited pool) (commands : List Command)
    (faithful : ∀ c ∈ commands.flatMap (·.clusters), c.Faithful)
    (within : ((before ++ commands).flatMap (·.clusters)).flatMap Cluster.hits ⊆ pool) :
    ∃ q, l.performAll commands = .ok q ∧ Balanced planes (before ++ commands) q ∧
      (commands.getLast? = some .flush → q.matcher.unmatched = []) := by
  induction commands generalizing before l with
  | nil => exact ⟨l, rfl, by simpa using balanced, by simp⟩
  | cons command rest ih =>
    have earlier : (before.flatMap (·.clusters)).flatMap Cluster.hits ⊆ pool := by
      rw [List.flatMap_append, List.flatMap_append] at within
      exact fun hit member => within (List.mem_append_left _ member)
    obtain ⟨next, run, balance, rule, flushed⟩ := balanced.perform distinct answers limited command
      (fun c member => faithful c (by simp [member])) earlier
    rw [List.append_cons] at within
    obtain ⟨q, runs, final, last⟩ := ih balance (by rwa [rule])
      (fun c member => faithful c (by simp only [List.flatMap_cons, List.mem_append, member, or_true])) within
    refine ⟨q, performAll_cons_eq_ok.mpr ⟨next, run, runs⟩, by rwa [List.append_cons], ?_⟩
    intro ends
    cases rest with
    | nil =>
      cases runs
      exact flushed (by simpa using ends)
    | cons other rest => exact last (by simpa using ends)

end Runs

/-- A matcher never loses, splits or duplicates what it accepted. -/
theorem conserved (policy : MatchPolicy) (config : MatchConfig) (commands : List Command)
    (valid : config.check = .ok ()) (built : ∀ c ∈ commands.flatMap (·.clusters), c.Built)
    (limited : ClockLimited ((commands.flatMap (·.clusters)).flatMap Cluster.hits)) :
    ∃ start l, Matcher.ofRule policy.rule config = .ok start ∧
      performAll { matcher := start } commands = .ok l ∧
      ((commands.flatMap (·.accepted config.planes)).flatMap Cluster.hits).Perm
        (l.matcher.unmatched.flatMap Cluster.hits ++ l.closed.flatMap Event.hits) ∧
      Gathered (commands.flatMap (·.accepted config.planes))
        (l.matcher.unmatched ++ l.closed.flatMap Event.drain) ∧
      (∀ c ∈ l.matcher.unmatched, c.hits ≠ [] ∧
        ∃ plane ∈ config.planes, ∀ hit ∈ c.hits, hit.plane = plane) ∧
      (∀ e ∈ l.closed, e.hits ≠ [] ∧ e.planes = config.planes ∧
        ∀ slot ∈ e.slots, ∀ hit ∈ slot.2.hits, hit.plane = slot.1) ∧
      l.matcher.eventCount = l.closed.length ∧
      l.matcher.rejected = (commands.flatMap (·.refused config.planes)).length ∧
      (commands.getLast? = some .flush → l.matcher.unmatched = []) := by
  obtain ⟨start, new, blank, rule⟩ : ∃ start, Matcher.ofRule policy.rule config = .ok start ∧
      Balanced config.planes [] { matcher := start } ∧ start.rule = policy.rule := by
    refine ⟨_, by rw [Matcher.ofRule, valid]; rfl, ?_, rfl⟩
    exact ⟨by simp [Matcher.planes, Function.comp_def], .refl [], by simp, by simp [closed], rfl, rfl⟩
  have distinct := (MatchConfig.planesChecked_of_check valid).distinct
  obtain ⟨l, run, balanced, flushed⟩ := blank.performAll distinct (by rw [rule]; exact policy.answers limited)
    limited commands (fun c member => (built c member).faithful) (List.Subset.refl _)
  rw [List.nil_append] at balanced
  refine ⟨start, l, new, run, ?_, balanced.gathered, ?_, ?_, balanced.counted, balanced.refused, flushed⟩
  · have hits : (l.closed.flatMap Event.drain).flatMap Cluster.hits = l.closed.flatMap Event.hits := by
      rw [List.flatMap_assoc]
      exact List.flatMap_congr fun e _ => (Event.hits_eq_drain e).symm
    have both := balanced.gathered.hits_perm
    rwa [List.flatMap_append, hits] at both
  · intro c member
    obtain ⟨faithful, plane, tracked, on⟩ := balanced.queued c member
    have own := (faithful.plane plane).mp on
    exact ⟨own.1, plane, tracked, own.2⟩
  · intro e member
    obtain ⟨sound, spanning, some⟩ := balanced.sound e member
    exact ⟨some, spanning, sound.own⟩

/-- Hits of two planes that are flushed are in closed events. -/
theorem conserved_pair :
    let commands := [Command.insertCluster (.ofHits [⟨1, 0, 4, 1⟩]),
      Command.insert 1 [.ofHits [⟨3, 1, 4, 1⟩]], Command.flush]
    ∃ start l, Matcher.ofConfig {} = .ok start ∧ performAll { matcher := start } commands = .ok l ∧
      [⟨1, 0, 4, 1⟩, ⟨3, 1, 4, 1⟩].Perm (l.closed.flatMap Event.hits) := by
  intro commands
  obtain ⟨start, l, new, run, hits, _, _, _, _, _, flushed⟩ := conserved (.endProximity 200) {} commands rfl
    (by simp [commands, Command.clusters, Cluster.Built.ofHits])
    (by decide)
  refine ⟨start, l, new, run, ?_⟩
  rw [flushed rfl] at hits
  exact hits

end Ledger

end EventFormation
