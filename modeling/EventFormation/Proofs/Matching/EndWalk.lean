import EventFormation.Proofs.Matching.Chains
import EventFormation.Proofs.Matching.Distance
import EventFormation.Proofs.Matching.Polls

namespace EventFormation

/-- The hits of an event are those of some clusters. -/
def Event.Made (e : Event) (group : List Cluster) : Prop := e.hits.Perm (group.flatMap Cluster.hits)

theorem Event.Made.endsAt {planes : List UInt8} {e : Event} {group : List Cluster} (made : e.Made group)
    (sound : e.Sound) (tracked : ∀ c ∈ group, c.Tracked planes) (some : group ≠ []) :
    EndsAt group e.timeEnd.toNat := by
  obtain ⟨c, member⟩ := List.exists_mem_of_ne_nil group some
  obtain ⟨hit, atHit⟩ := List.exists_mem_of_ne_nil c.hits (tracked c member).hits_ne_nil
  have filled : e.hits ≠ [] :=
    List.ne_nil_of_mem (made.mem_iff.mpr (List.mem_flatMap.mpr ⟨c, member, atHit⟩))
  have times := sound.times filled
  have bound : ∀ d ∈ group, d.timeEnd.toNat ≤ e.timeEnd.toNat := by
    intro d inside
    obtain ⟨last, atLast, stop⟩ := (tracked d inside).faithful.exists_timeEnd (tracked d inside).hits_ne_nil
    have inEvent := made.mem_iff.mpr (List.mem_flatMap.mpr ⟨d, inside, atLast⟩)
    have below := times.le_high _ (List.mem_map_of_mem inEvent)
    rwa [stop, UInt64.le_iff_toNat_le] at below
  obtain ⟨last, atLast, stop⟩ := List.mem_map.mp times.high_mem
  obtain ⟨d, inside, atCluster⟩ := List.mem_flatMap.mp (made.mem_iff.mp atLast)
  have above := (tracked d inside).faithful.time_le_timeEnd atCluster
  rw [stop, UInt64.le_iff_toNat_le] at above
  exact ⟨⟨d, inside, Nat.le_antisymm (bound d inside) above⟩, bound⟩

/-- What is taken out of an event ends with one of the clusters that the event is made of. -/
theorem Event.Made.drain_ends {planes : List UInt8} {e : Event} {group : List Cluster} (made : e.Made group)
    (sound : e.Sound) (tracked : ∀ c ∈ group, c.Tracked planes) : ∀ c ∈ e.drain, ∃ d ∈ group, d.timeEnd = c.timeEnd := by
  intro c member
  obtain ⟨slot, inside, rfl⟩ := List.mem_map.mp member
  obtain ⟨atSlot, filled⟩ := mem_populated.mp inside
  have faithful := sound.faithful slot atSlot
  obtain ⟨last, atLast, stop⟩ := faithful.exists_timeEnd filled
  have inEvent : last ∈ e.hits := by
    rw [hits_eq]
    exact List.mem_flatMap.mpr ⟨slot, atSlot, atLast⟩
  obtain ⟨d, atGroup, inPart⟩ := List.mem_flatMap.mp (made.mem_iff.mp inEvent)
  obtain ⟨faithful', plane, _, on⟩ := tracked d atGroup
  obtain ⟨some, all⟩ := (faithful'.plane plane).mp on
  obtain ⟨final, atFinal, stop'⟩ := faithful'.exists_timeEnd some
  -- The last hit of the part is on the same plane, so it is in the same slot.
  have back := made.mem_iff.mpr (List.mem_flatMap.mpr ⟨d, atGroup, atFinal⟩)
  rw [hits_eq] at back
  obtain ⟨slot', atSlot', there⟩ := List.mem_flatMap.mp back
  have plane' : slot'.1 = slot.1 := by
    rw [← sound.own slot' atSlot' final there, ← sound.own slot atSlot last atLast, all final atFinal, all last inPart]
  rw [List.inj_on_of_nodup_map sound.distinct atSlot' atSlot plane'] at there
  refine ⟨d, atGroup, UInt64.le_antisymm ?_ ?_⟩
  · rw [← stop']
    exact faithful.time_le_timeEnd there
  · rw [← stop]
    exact faithful'.time_le_timeEnd inPart

namespace Pass

/-- A search does not change its mind where no cluster is nearer. -/
theorem closest_eq_best {rule : JoinRule} {event : Event} {inRange eligible : Cluster → Bool}
    {queue : List Cluster} {place : Nat} {nearest : Float} {best found : Option Nat}
    (none : ∀ c ∈ queue, ∀ distance, rule.proximity event c = .ok (some distance) → ¬ distance < nearest)
    (run : closest rule event inRange eligible place nearest best queue = .ok found) : found = best := by
  induction queue generalizing place with
  | nil =>
    cases run
    rfl
  | cons c rest ih =>
    have later := @ih (place + 1) fun d member => none d (List.mem_cons_of_mem c member)
    unfold closest at run
    split at run
    · cases run
      rfl
    split at run
    · obtain ⟨distance, atFront, run⟩ := bind_eq_ok_iff.mp run
      cases distance with
      | none => exact later run
      | some distance =>
        dsimp only at run
        rw [if_neg (none c List.mem_cons_self distance atFront)] at run
        exact later run
    · exact later run

/-- A walk that joins clusters in the order of their ends: closed events are made of chains, and the
event being built of the beginning of one. -/
structure Chained (t : Terms) (maxDelta : Nat) (queue : List Cluster) (p : Pass)
    (closed : List (List Cluster)) (group : List Cluster) : Prop where
  whole : closed.flatten ++ (group ++ p.queue) = queue
  chains : Chains maxDelta closed
  linked : Linked maxDelta group
  apart : ∀ earlier ∈ closed, Apart maxDelta earlier (group ++ p.queue)
  ready : ∀ c ∈ closed.flatten ++ group, t.ready c = true
  events : List.Forall₂ Event.Made p.closed.toList closed
  event : p.event.Made group
  deferred : p.deferred.toList = []
  begun : closed ≠ [] → group ≠ [] ∨ ∃ front rest, p.queue = front :: rest ∧ t.ready front = true

variable {t : Terms} {planes : List UInt8} {maxDelta : UInt64} {p q : Pass} {queue group : List Cluster}
  {closed : List (List Cluster)}

theorem ticksApart_of_le {a b : UInt64} (ordered : a ≤ b) : ticksApart a b = b.toNat - a.toNat := by
  rw [UInt64.le_iff_toNat_le] at ordered
  simp only [ticksApart, ticksSince]
  omega

theorem endProximity_near {e : Event} {c : Cluster} {distance : Float} (ordered : e.timeEnd ≤ c.timeEnd)
    (run : (MatchPolicy.endProximity maxDelta).rule.proximity e c = .ok (some distance)) :
    c.timeEnd.toNat ≤ e.timeEnd.toNat + maxDelta.toNat ∧
      distance = ticksFloat (c.timeEnd.toNat - e.timeEnd.toNat) := by
  simp only [MatchPolicy.rule, MatchPolicy.proximity, ticksApart_of_le ordered, Except.ok.injEq] at run
  rw [UInt64.le_iff_toNat_le] at ordered
  split at run
  · cases run
    exact ⟨by omega, rfl⟩
  · cases run

theorem endProximity_far {e : Event} {c : Cluster} (ordered : e.timeEnd ≤ c.timeEnd)
    (run : (MatchPolicy.endProximity maxDelta).rule.proximity e c = .ok none) :
    e.timeEnd.toNat + maxDelta.toNat < c.timeEnd.toNat := by
  simp only [MatchPolicy.rule, MatchPolicy.proximity, ticksApart_of_le ordered, Except.ok.injEq] at run
  rw [UInt64.le_iff_toNat_le] at ordered
  split at run
  · cases run
  · omega

/-- Behind the front there is no cluster with a nearer end. -/
theorem endProximity_prefers_front {front : Cluster} {rest : List Cluster} {nearest : Float} {found : Option Nat}
    (rule : t.rule = (MatchPolicy.endProximity maxDelta).rule) (ordered : p.event.timeEnd ≤ front.timeEnd)
    (sorted : ∀ c ∈ rest, front.timeEnd ≤ c.timeEnd) (near : t.rule.proximity p.event front = .ok (some nearest))
    (run : closer? t p front rest nearest = .ok found) : found = none := by
  refine closest_eq_best (fun c member distance atCluster => ?_) run
  rw [rule] at near atCluster
  obtain ⟨_, rfl⟩ := endProximity_near ordered near
  obtain ⟨_, rfl⟩ := endProximity_near (UInt64.le_trans ordered (sorted c member)) atCluster
  have later := UInt64.le_iff_toNat_le.mp (sorted c member)
  have word := c.timeEnd.toNat_lt
  exact ticksFloat_not_lt (by omega) (by simp only [wordCount]; omega)

theorem Chained.start (queue : List Cluster) (planes : List UInt8) :
    Chained t maxDelta.toNat queue { queue, event := Event.ofPlanes planes } [] [] where
  whole := rfl
  chains := .nil
  linked := by simp [Linked]
  apart := by simp
  ready := by simp
  events := .nil
  event := by simp [Event.Made]
  deferred := rfl
  begun := by simp

theorem Chained.filled_iff (chained : Chained t maxDelta.toNat queue p closed group)
    (tracked : ∀ c ∈ queue, c.Tracked planes) : p.event.hits ≠ [] ↔ group ≠ [] := by
  constructor
  · rintro filled rfl
    exact filled chained.event.eq_nil
  · intro some none
    obtain ⟨c, member⟩ := List.exists_mem_of_ne_nil group some
    have inQueue : c ∈ queue := by
      rw [← chained.whole]
      exact List.mem_append_right _ (List.mem_append_left _ member)
    have made := chained.event
    rw [Event.Made, none] at made
    exact (tracked c inQueue).hits_ne_nil (List.flatMap_eq_nil_iff.mp made.symm.eq_nil c member)

/-- Those in the queue end after those that were joined, and in the order of their places. -/
theorem Chained.ordered (chained : Chained t maxDelta.toNat queue p closed group)
    (sorted : queue.Pairwise fun a b => a.timeEnd ≤ b.timeEnd) :
    (p.queue.Pairwise fun a b => a.timeEnd ≤ b.timeEnd) ∧
      ∀ c ∈ group, ∀ d ∈ p.queue, c.timeEnd ≤ d.timeEnd := by
  rw [← chained.whole] at sorted
  obtain ⟨_, unclosed, _⟩ := List.pairwise_append.mp sorted
  exact (List.pairwise_append.mp unclosed).2

theorem Chained.behind {front : Cluster} {rest : List Cluster}
    (chained : Chained t maxDelta.toNat queue p closed group)
    (sorted : queue.Pairwise fun a b => a.timeEnd ≤ b.timeEnd) (atFront : p.queue = front :: rest) :
    ∀ c ∈ rest, front.timeEnd ≤ c.timeEnd := by
  have ordered := (chained.ordered sorted).1
  rw [atFront] at ordered
  exact (List.pairwise_cons.mp ordered).1

/-- The event ends with the last of its clusters, and those in the queue do not end before. -/
theorem Chained.endsAt (chained : Chained t maxDelta.toNat queue p closed group) (sound : p.Sound planes)
    (tracked : ∀ c ∈ queue, c.Tracked planes) (sorted : queue.Pairwise fun a b => a.timeEnd ≤ b.timeEnd)
    (some : group ≠ []) :
    EndsAt group p.event.timeEnd.toNat ∧ ∀ c ∈ p.queue, p.event.timeEnd ≤ c.timeEnd := by
  have inQueue : ∀ c ∈ group, c ∈ queue := by
    intro c member
    rw [← chained.whole]
    exact List.mem_append_right _ (List.mem_append_left _ member)
  have last := chained.event.endsAt sound.event (fun c member => tracked c (inQueue c member)) some
  refine ⟨last, fun c member => ?_⟩
  obtain ⟨final, atFinal, value⟩ := last.1
  have ordered := (chained.ordered sorted).2 final atFinal c member
  rw [UInt64.le_iff_toNat_le] at ordered ⊢
  omega

theorem Chained.close {front : Cluster} {rest : List Cluster}
    (chained : Chained t maxDelta.toNat queue p closed group) (atFront : p.queue = front :: rest)
    (ready : t.ready front = true) (sorted : queue.Pairwise fun a b => a.timeEnd ≤ b.timeEnd)
    (last : EndsAt group p.event.timeEnd.toNat)
    (far : p.event.timeEnd.toNat + maxDelta.toNat < front.timeEnd.toNat) :
    Chained t maxDelta.toNat queue p.close (closed ++ [group]) [] := by
  have some : group ≠ [] := by
    obtain ⟨c, member, _⟩ := last.1
    exact List.ne_nil_of_mem member
  have unchanged : p.close.queue = p.queue := by rw [Pass.close, chained.deferred, List.nil_append]
  have beyond : ∀ c ∈ p.queue, front.timeEnd.toNat ≤ c.timeEnd.toNat := by
    intro c member
    rw [atFront] at member
    rcases List.mem_cons.mp member with rfl | later
    · exact Nat.le_refl _
    · exact UInt64.le_iff_toNat_le.mp (chained.behind sorted atFront c later)
  constructor
  · rw [unchanged, ← chained.whole]
    simp
  · exact chained.chains.concat some chained.linked fun earlier member =>
      (chained.apart earlier member).mono (List.subset_append_left group p.queue)
  · simp [Linked]
  · intro earlier member c atEarlier d atQueue
    rw [List.nil_append, unchanged] at atQueue
    rcases List.mem_append.mp member with old | new
    · exact chained.apart earlier old c atEarlier d (List.mem_append_right _ atQueue)
    · rw [List.mem_singleton.mp new] at atEarlier
      have low := last.2 c atEarlier
      have high := beyond d atQueue
      omega
  · simpa using chained.ready
  · rw [Pass.close, Series.toList_push]
    exact List.rel_append chained.events (.cons chained.event .nil)
  · rw [Pass.close, Event.Made, Event.clear, Event.hits_ofPlanes]
    rfl
  · rfl
  · exact fun _ => Or.inr ⟨front, rest, unchanged.trans atFront, ready⟩

theorem Chained.join {front : Cluster} {rest : List Cluster} {joined : Event}
    (chained : Chained t maxDelta.toNat queue p closed group) (atFront : p.queue = front :: rest)
    (ready : t.ready front = true) (linked : Linked maxDelta.toNat (group ++ [front]))
    (join : p.event.Joined front joined) :
    Chained t maxDelta.toNat queue { p with queue := rest, event := joined } closed (group ++ [front]) := by
  have same : group ++ [front] ++ rest = group ++ p.queue := by simp [atFront]
  constructor
  · rw [same, chained.whole]
  · exact chained.chains
  · exact linked
  · rw [same]
    exact chained.apart
  · intro c member
    rw [← List.append_assoc] at member
    rcases List.mem_append.mp member with old | new
    · exact chained.ready c old
    · rw [List.mem_singleton.mp new, ready]
  · exact chained.events
  · have made := join.hits_perm.trans (chained.event.append_right front.hits)
    simpa [Event.Made] using made
  · exact chained.deferred
  · simp

/-- A move ends the chain of the event being built, or continues it with the front of the queue. -/
theorem Chained.next {move : Move} (chained : Chained t maxDelta.toNat queue p closed group)
    (rule : t.rule = (MatchPolicy.endProximity maxDelta).rule) (sound : p.Sound planes)
    (tracked : ∀ c ∈ queue, c.Tracked planes) (sorted : queue.Pairwise fun a b => a.timeEnd ≤ b.timeEnd)
    (next : Next t p move) :
    p.apply move = p.close ∧ Chained t maxDelta.toNat queue p.close (closed ++ [group]) [] ∨
      ∃ front rest joined, p.queue = front :: rest ∧ p.event.Joined front joined ∧
        p.apply move = { p with queue := rest, event := joined } ∧
        Chained t maxDelta.toNat queue { p with queue := rest, event := joined } closed (group ++ [front]) := by
  cases next with
  | finish _ _ waiting => exact absurd chained.deferred waiting
  | @part front rest atFront ready filled apart =>
    obtain ⟨last, ordered⟩ := chained.endsAt sound tracked sorted ((chained.filled_iff tracked).mp filled)
    rw [rule] at apart
    have far := endProximity_far (ordered front (by simp [atFront])) apart
    exact Or.inl ⟨rfl, chained.close atFront ready sorted last far⟩
  | @seed front rest atFront ready empty =>
    obtain ⟨joined, join, result⟩ := join_eq sound atFront
    have none : group = [] := by
      by_contra some
      exact (chained.filled_iff tracked).mpr some empty
    subst none
    exact Or.inr ⟨front, rest, joined, atFront, join, result, chained.join atFront ready (.single front) join⟩
  | @join front rest nearest atFront ready filled near _ =>
    obtain ⟨joined, join, result⟩ := join_eq sound atFront
    obtain ⟨last, ordered⟩ := chained.endsAt sound tracked sorted ((chained.filled_iff tracked).mp filled)
    have after := ordered front (by simp [atFront])
    rw [rule] at near
    obtain ⟨close, _⟩ := endProximity_near after near
    have linked := chained.linked.concat last (UInt64.le_iff_toNat_le.mp after) close
    exact Or.inr ⟨front, rest, joined, atFront, join, result, chained.join atFront ready linked join⟩
  | @prefer front rest nearest behind atFront ready filled near opened found =>
    obtain ⟨_, ordered⟩ := chained.endsAt sound tracked sorted ((chained.filled_iff tracked).mp filled)
    have none := endProximity_prefers_front rule (ordered front (by simp [atFront])) (chained.behind sorted atFront)
      near found
    cases none

theorem walk_chained (rule : t.rule = (MatchPolicy.endProximity maxDelta).rule) (distinct : planes.Nodup)
    (tracked : ∀ c ∈ queue, c.Tracked planes) (sorted : queue.Pairwise fun a b => a.timeEnd ≤ b.timeEnd)
    (run : walk t { queue, event := Event.ofPlanes planes } = .ok q) :
    ∃ closed group, Chained t maxDelta.toNat queue q closed group := by
  refine (walkWithin_induction
    (fun p => p.Sound planes ∧ ∃ closed group, Chained t maxDelta.toNat queue p closed group) ?_ ?_ run).2
  · rintro p move ⟨sound, closed, group, chained⟩ next
    refine ⟨(next.step sound).sound sound, ?_⟩
    rcases chained.next rule sound tracked sorted next with ⟨result, ended⟩ | ⟨_, _, _, _, _, result, continued⟩
    · exact ⟨_, _, result ▸ ended⟩
    · exact ⟨_, _, result ▸ continued⟩
  · exact ⟨.start distinct tracked, [], [], .start queue planes⟩

end Pass

end EventFormation
