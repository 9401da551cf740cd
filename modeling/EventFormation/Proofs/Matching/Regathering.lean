import EventFormation.Proofs.Matching.Joining

namespace EventFormation

/-- Clusters can be taken into an event one after the other, each of which belongs to what is there by then. -/
def JoinRule.Gathers (rule : JoinRule) : Event → List Cluster → Prop
  | _, [] => True
  | e, c :: rest => (e.hits ≠ [] → ∃ distance, rule.proximity e c = .ok (some distance)) ∧
      ∃ joined left, e.merge c = some (joined, left) ∧ rule.Gathers joined rest

namespace Pass

/-- From here on a walk only takes clusters to open planes. It closes no event. -/
def Opens (t : Terms) (p : Pass) : Prop :=
  ∀ q move, Reaches t p q → next? t q = .ok (some move) → ∃ c, q.joining move = some c ∧ q.planeOpen c = true

variable {t : Terms} {planes : List UInt8} {p q : Pass} {move : Move}

theorem opens_of_ended (ended : next? t p = .ok none) : Opens t p := by
  intro q move reach next
  rcases Relation.ReflTransGen.cases_head reach with rfl | ⟨_, ⟨move', first, _⟩, _⟩
  · rw [ended] at next
    cases next
  · rw [ended] at first
    cases first

theorem opens_iff_of_next (next : next? t p = .ok (some move)) :
    Opens t p ↔ (∃ c, p.joining move = some c ∧ p.planeOpen c = true) ∧ Opens t (p.apply move) := by
  constructor
  · intro opens
    exact ⟨opens p move .refl next, fun q move' reach => opens q move' (.head ⟨move, next, rfl⟩ reach)⟩
  · rintro ⟨first, later⟩ q move' reach next'
    rcases Relation.ReflTransGen.cases_head reach with rfl | ⟨_, ⟨move'', step, rfl⟩, rest⟩
    · rw [next] at next'
      cases next'
      exact first
    · rw [next] at step
      cases step
      exact later q move' rest next'

/-- A walk that closes no event and joins open planes only keeps every cluster. -/
theorem Opens.keeps (opens : Opens t p) (reach : Reaches t p q) (sound : p.Sound planes) :
    q.held.Perm p.held ∧ q.closed = p.closed := by
  have both : q.Sound planes ∧ q.held.Perm p.held ∧ q.closed = p.closed := by
    induction reach with
    | refl => exact ⟨sound, .refl _, rfl⟩
    | @tail r _ before last ih =>
      obtain ⟨good, held, closed⟩ := ih
      obtain ⟨move, next, rfl⟩ := last
      obtain ⟨c, joins, opened⟩ := opens r move before next
      have next := next?_sound next
      refine ⟨(next.step good).sound good, (next.held_perm good fun d other => ?_).trans held,
        (next.takes good joins).closed.trans closed⟩
      rw [joins] at other
      cases other
      exact opened
  exact both.2

/-- A walk that keeps the number of clusters and closes no event joins open planes only. -/
theorem opens_of_kept (sound : p.Sound planes) (reach : Reaches t p q) (ended : next? t q = .ok none)
    (kept : p.held.length ≤ q.held.length) (none : q.closed.toList = []) : Opens t p := by
  intro r move before next
  have rest := before.before_end reach ended
  have onto : Reaches t r (r.apply move) := .single ⟨move, next, rfl⟩
  have onward := onto.before_end rest ended
  have good := (before.sound sound).1
  have next := next?_sound next
  have good' := (next.step good).sound good
  cases joins : r.joining move with
  | none =>
    have stays := (onward.onward good').2
    rw [next.eq_close joins, apply, close, none, List.prefix_nil, Series.toList_push] at stays
    simp at stays
  | some c =>
    refine ⟨c, rfl, (next.length_held good).2 ?_ c joins⟩
    exact ((before.onward sound).1.trans kept).trans (onward.onward good').1

/-- A plane is open if what the event has is on other planes. -/
theorem planeOpen_of_drain (sound : p.Sound planes) {c : Cluster} (tracked : c.Tracked planes)
    (apart : ∀ member ∈ p.event.drain, member.plane ≠ c.plane) : p.planeOpen c = true := by
  obtain ⟨plane, _, on⟩ := tracked.on
  refine planeOpen_iff.mpr ⟨plane, on, ?_⟩
  rw [Event.cluster?, Option.filter_eq_none_iff]
  intro held found filled
  obtain ⟨slot, there, rfl⟩ := Option.map_eq_some_iff.mp found
  have inSlots := List.mem_of_find?_eq_some there
  have own : slot.1 = plane := by simpa using List.find?_some there
  have some : slot.2.hits ≠ [] := by simpa [Cluster.isEmpty_eq_false_iff] using filled
  refine apart slot.2 (List.mem_map_of_mem (Event.mem_populated.mpr ⟨inSlots, some⟩)) ?_
  rw [on, ← own]
  exact ((sound.event.faithful slot inSlots).plane slot.1).mpr ⟨some, sound.event.own slot inSlots⟩

/-- A front that is the only ready cluster of its plane joins if it belongs to the event, and closes it if not. -/
theorem next?_alone {front : Cluster} {rest : List Cluster} (queue : p.queue = front :: rest)
    (ready : t.ready front = true) (alone : ∀ c ∈ rest, t.ready c = true → c.plane ≠ front.plane) {result : Option Move}
    (next : next? t p = .ok result) :
    result = some .join ∧ (p.event.hits ≠ [] → ∃ distance, t.rule.proximity p.event front = .ok (some distance)) ∨
      result = some .close ∧ p.event.hits ≠ [] ∧ t.rule.proximity p.event front = .ok none := by
  cases result with
  | none =>
    rcases next?_eq_none next with ⟨empty, _⟩ | ⟨front', rest', queue', late⟩
    · rw [queue] at empty
      cases empty
    · rw [queue] at queue'
      cases queue'
      rw [ready] at late
      cases late
  | some move =>
    cases next?_sound next with
    | finish empty =>
      rw [queue] at empty
      cases empty
    | part queue' _ filled far =>
      rw [queue] at queue'
      cases queue'
      exact Or.inr ⟨rfl, filled, far⟩
    | seed _ _ empty => exact Or.inl ⟨rfl, fun filled => absurd empty filled⟩
    | join queue' _ _ near =>
      rw [queue] at queue'
      cases queue'
      exact Or.inl ⟨rfl, fun _ => ⟨_, near⟩⟩
    | prefer queue' _ _ _ _ found =>
      rw [queue] at queue'
      cases queue'
      obtain ⟨closer, atPlace, final, same, _⟩ := closer?_eq_some found
      exact absurd same (alone closer (List.mem_of_getElem? atPlace) final)

theorem gathers_cons_iff {rule : JoinRule} {e joined : Event} {c left : Cluster} {rest : List Cluster}
    (merge : e.merge c = some (joined, left)) :
    rule.Gathers e (c :: rest) ↔
      (e.hits ≠ [] → ∃ distance, rule.proximity e c = .ok (some distance)) ∧ rule.Gathers joined rest := by
  refine and_congr_right fun _ => ⟨?_, fun gathers => ⟨joined, left, merge, gathers⟩⟩
  rintro ⟨_, _, merge', gathers⟩
  rw [merge] at merge'
  cases merge'
  exact gathers

/-- Ready clusters of different planes are joined one after the other just if they can be gathered. -/
theorem opens_iff_gathers {parts late : List Cluster} (sound : p.Sound planes) (polling : t.flushing = false)
    (queue : p.queue = parts ++ late) (ready : ∀ c ∈ parts, t.ready c = true) (waits : ∀ c ∈ late, t.ready c = false)
    (apart : ((p.event.drain ++ parts).map (·.plane)).Nodup)
    (answers : ∀ q, Reaches t p q → ∃ move, next? t q = .ok move) :
    Opens t p ↔ t.rule.Gathers p.event parts := by
  induction parts generalizing p with
  | nil =>
    have ended : next? t p = .ok none := by
      unfold next?
      cases late with
      | nil => simp [queue, polling]
      | cons c rest => simp [queue, waits c List.mem_cons_self]
    exact iff_of_true (opens_of_ended ended) trivial
  | cons c rest ih =>
    have atFront : p.queue = c :: (rest ++ late) := queue
    have tracked := sound.queued c (by simp [atFront])
    have others : ∀ d ∈ p.event.drain ++ rest, d.plane ≠ c.plane := by
      rw [List.map_append, List.map_cons, List.nodup_middle, List.nodup_cons, ← List.map_append] at apart
      exact fun d member same => apart.1 (List.mem_map.mpr ⟨d, member, same⟩)
    have alone : ∀ d ∈ rest ++ late, t.ready d = true → d.plane ≠ c.plane := by
      intro d member final
      rcases List.mem_append.mp member with part | waiting
      · exact others d (List.mem_append_right _ part)
      · rw [waits d waiting] at final
        cases final
    obtain ⟨joined, left, merge, join⟩ := sound.joins tracked
    rw [gathers_cons_iff merge]
    obtain ⟨move, next⟩ := answers p .refl
    rcases next?_alone atFront (ready c List.mem_cons_self) alone next with ⟨rfl, near⟩ | ⟨rfl, filled, far⟩
    · -- After the front has joined, what is left is in the same position as before.
      have opened : p.planeOpen c = true :=
        planeOpen_of_drain sound tracked fun d member => others d (List.mem_append_left _ member)
      have joins : p.joining .join = some c := by rw [joining, atFront]; rfl
      have takes := (next?_sound next).takes sound joins
      have drains := takes.drain_perm sound opened
      have good := ((next?_sound next).step sound).sound sound
      have result : p.join = { p with queue := rest ++ late, event := joined } := by
        simp only [Pass.join, atFront, merge]
      rw [opens_iff_of_next next, and_iff_right ⟨c, joins, opened⟩, and_iff_right near]
      rw [apply, result] at drains good ⊢
      refine ih good rfl (fun d member => ready d (List.mem_cons_of_mem c member)) ?_ fun q reach => ?_
      · refine (List.Perm.nodup_iff ((drains.append_right rest).map _)).mpr ?_
        simpa using apart
      · exact answers q (.head ⟨.join, next, by rw [apply, result]⟩ reach)
    · refine iff_of_false (fun opens => ?_) fun both => ?_
      · obtain ⟨_, joins, _⟩ := opens p .close .refl next
        cases joins
      · obtain ⟨_, belongs⟩ := both.1 filled
        rw [far] at belongs
        cases belongs

end Pass

end EventFormation
