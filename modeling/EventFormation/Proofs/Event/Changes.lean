import EventFormation.Proofs.Cluster.Construction
import EventFormation.Proofs.Event.Slots

namespace EventFormation.Event

/-- What can be asked of an event. Whoever drains it may stop after any number of clusters. -/
inductive Change
  | insert (hit : Hit)
  | merge (c : Cluster)
  | clear
  | drain (limit : Nat)

/-- What comes back: whether a hit or a cluster was taken in, what is left of the cluster, and the
clusters that were taken out. -/
inductive Answer
  | inserted (accepted : Bool)
  | merged (accepted : Bool) (left : Cluster)
  | cleared
  | drained (taken : List Cluster)

def change (e : Event) : Change → Answer × Event
  | .insert hit =>
    match e.insert hit with
    | some next => (.inserted true, next)
    | none => (.inserted false, e)
  | .merge c =>
    match e.merge c with
    | some (next, left) => (.merged true left, next)
    | none => (.merged false c, e)
  | .clear => (.cleared, e.clear)
  | .drain limit => (.drained (e.drainUpTo limit).1, (e.drainUpTo limit).2)

/-- Hits have come to the end of the slot of a plane, and every other slot is as it was. -/
def Grown (e : Event) (plane : UInt8) (more : List Hit) (q : Event) : Prop :=
  ∃ before held full after, e.slots = before ++ (plane, held) :: after ∧
    q.slots = before ++ (plane, full) :: after ∧ full.hits = held.hits ++ more

/-- The hits of a cluster cannot join an event: there is none, they are on different planes, or on one
that is not among the planes. -/
def Unwelcome (planes : List UInt8) (hits : List Hit) : Prop :=
  hits = [] ∨ (∃ a ∈ hits, ∃ b ∈ hits, a.plane ≠ b.plane) ∨ ∃ hit ∈ hits, hit.plane ∉ planes

/-- How far one comes who asks for so many clusters: to the last one of them, or to the end if there
are fewer. -/
def Reached (limit : Nat) (reached rest : List (UInt8 × Cluster)) : Prop :=
  ((⟨reached⟩ : Event).drain.length = limit ∧ ∀ slot, reached.getLast? = some slot → slot.2.hits ≠ []) ∨
    ((⟨reached⟩ : Event).drain.length < limit ∧ rest = [])

/-- All that a change can do. -/
inductive Changed (e : Event) : Change → Answer → Event → Prop
  | inserted {hit q} : e.Grown hit.plane [hit] q → Changed e (.insert hit) (.inserted true) q
  | strange {hit} : hit.plane ∉ e.planes → Changed e (.insert hit) (.inserted false) e
  | merged {c plane q} : c.hits ≠ [] → (∀ hit ∈ c.hits, hit.plane = plane) → e.Grown plane c.hits q →
      Changed e (.merge c) (.merged true .empty) q
  | refused {c} : Unwelcome e.planes c.hits → Changed e (.merge c) (.merged false c) e
  | cleared {q} : q.planes = e.planes → (∀ slot ∈ q.slots, slot.2 = .empty) → Changed e .clear .cleared q
  | drained {limit reached rest} : e.slots = reached ++ rest → Reached limit reached rest →
      Changed e (.drain limit) (.drained ((reached.filter fun slot => !slot.2.isEmpty).map (·.2)))
        ⟨reached.map (fun slot => (slot.1, .empty)) ++ rest⟩

/-- An event with all hits that came into it and all that went out of it. -/
structure History where
  event : Event
  arrived : List Hit := []
  gone : List Hit := []

/-- The hits that come in with a change. -/
def Change.arrivals : Change → Answer → List Hit
  | .insert hit, .inserted true => [hit]
  | .merge c, .merged true _ => c.hits
  | _, _ => []

/-- The hits that an event loses. -/
def departures (e : Event) : Answer → List Hit
  | .cleared => e.hits
  | .drained taken => taken.flatMap Cluster.hits
  | _ => []

namespace History

def perform (h : History) (change : Change) : History where
  event := (h.event.change change).2
  arrived := h.arrived ++ change.arrivals (h.event.change change).1
  gone := h.gone ++ h.event.departures (h.event.change change).1

def performAll (h : History) (changes : List Change) : History := changes.foldl perform h

end History

/-- The merged clusters are such as can be made from hits. -/
def Change.Possible (change : Change) : Prop := ∀ c, change = .merge c → c.Built

variable {e q : Event} {change : Change} {answer : Answer} {planes : List UInt8} {plane : UInt8} {more : List Hit}
  {c : Cluster} {hit : Hit} {limit : Nat}

theorem Grown.tracked (grown : e.Grown plane more q) : plane ∈ e.planes := by
  obtain ⟨before, held, full, after, slots, _, _⟩ := grown
  simp [Event.planes, slots]

theorem Grown.planes_eq (grown : e.Grown plane more q) : q.planes = e.planes := by
  obtain ⟨before, held, full, after, slots, slots', _⟩ := grown
  simp [Event.planes, slots, slots']

theorem Grown.hits_perm (grown : e.Grown plane more q) : q.hits.Perm (e.hits ++ more) := by
  obtain ⟨before, held, full, after, slots, slots', hits⟩ := grown
  simp only [hits_eq, slots, slots', hits, List.flatMap_append, List.flatMap_cons, List.append_assoc]
  exact (List.perm_append_comm.append_left held.hits).append_left _

theorem Joined.grown (join : e.Joined c q) : ∃ plane, c.plane = some plane ∧ e.Grown plane c.hits q := by
  obtain ⟨before, plane, held, after, on, slots, slots'⟩ := join
  exact ⟨plane, on, before, held, _, after, slots, slots', held.hits_merge_fst c⟩

theorem insert_of_tracked (tracked : hit.plane ∈ e.planes) :
    ∃ before held after, e.slots = before ++ (hit.plane, held) :: after ∧
      e.insert hit = some ⟨before ++ (hit.plane, held.insert hit) :: after⟩ := by
  obtain ⟨before, held, after, slots, fresh⟩ := slots_split tracked
  refine ⟨before, held, after, slots, ?_⟩
  rw [Event.insert, tracks, List.contains_iff_mem.mpr tracked, if_pos rfl, modify, slots, modifySlots_split fresh]

theorem not_unwelcome {hits : List Hit} (filled : hits ≠ []) (own : ∀ hit ∈ hits, hit.plane = plane)
    (tracked : plane ∈ planes) : ¬ Unwelcome planes hits := by
  rintro (none | ⟨a, atA, b, atB, apart⟩ | ⟨hit, member, strange⟩)
  · exact filled none
  · exact apart ((own a atA).trans (own b atB).symm)
  · exact strange (own hit member ▸ tracked)

/-- A cluster is welcome if it has a plane and that is tracked. -/
theorem unwelcome_iff (faithful : c.Faithful) :
    Unwelcome planes c.hits ↔ ∀ plane ∈ planes, c.plane ≠ some plane := by
  constructor
  · intro unwelcome plane tracked on
    obtain ⟨filled, own⟩ := (faithful.plane plane).mp on
    exact not_unwelcome filled own tracked unwelcome
  · intro none
    by_contra welcome
    simp only [Unwelcome, not_or, not_exists, not_and, not_not] at welcome
    obtain ⟨filled, same, tracked⟩ := welcome
    obtain ⟨first, member⟩ := List.exists_mem_of_ne_nil _ filled
    exact none first.plane (tracked first member)
      ((faithful.plane _).mpr ⟨filled, fun hit atHit => same hit atHit first member⟩)

theorem drain_cons (slot : UInt8 × Cluster) (rest : List (UInt8 × Cluster)) :
    (⟨slot :: rest⟩ : Event).drain =
      if slot.2.isEmpty then (⟨rest⟩ : Event).drain else slot.2 :: (⟨rest⟩ : Event).drain := by
  cases none : slot.2.isEmpty <;> simp [drain, populated, none]

/-- A drain takes the clusters of the slots that it reaches and leaves the others alone. -/
theorem drainSlots_reached (limit : Nat) (slots : List (UInt8 × Cluster)) :
    ∃ reached rest, slots = reached ++ rest ∧ Reached limit reached rest ∧
      drainSlots limit slots = ((⟨reached⟩ : Event).drain, reached.map (fun slot => (slot.1, .empty)) ++ rest) := by
  induction slots generalizing limit with
  | nil =>
    cases limit with
    | zero => exact ⟨[], [], rfl, Or.inl ⟨rfl, by simp⟩, rfl⟩
    | succ limit => exact ⟨[], [], rfl, Or.inr ⟨Nat.succ_pos _, rfl⟩, rfl⟩
  | cons slot others ih =>
    cases limit with
    | zero => exact ⟨[], slot :: others, rfl, Or.inl ⟨rfl, by simp⟩, rfl⟩
    | succ limit =>
      cases empty : slot.2.isEmpty with
      | true =>
        obtain ⟨reached, rest, rfl, reach, run⟩ := ih (limit + 1)
        have skipped : (⟨slot :: reached⟩ : Event).drain = (⟨reached⟩ : Event).drain := by
          rw [drain_cons, empty, if_pos rfl]
        refine ⟨slot :: reached, rest, rfl, ?_, ?_⟩
        · rcases reach with ⟨count, last⟩ | ended
          · refine Or.inl ⟨skipped ▸ count, fun other atLast => last other ?_⟩
            cases reached with
            | nil => cases count
            | cons => rwa [List.getLast?_cons_cons] at atLast
          · exact Or.inr (skipped ▸ ended)
        · simp only [drainSlots, empty, if_true, run, skipped]
          rfl
      | false =>
        obtain ⟨reached, rest, rfl, reach, run⟩ := ih limit
        have taken : (⟨slot :: reached⟩ : Event).drain = slot.2 :: (⟨reached⟩ : Event).drain := by
          rw [drain_cons, empty, if_neg Bool.false_ne_true]
        refine ⟨slot :: reached, rest, rfl, ?_, ?_⟩
        · rcases reach with ⟨count, last⟩ | ⟨few, ended⟩
          · refine Or.inl ⟨by rw [taken, List.length_cons, count], fun other atLast => ?_⟩
            cases reached with
            | nil =>
              cases atLast
              exact Cluster.isEmpty_eq_false_iff.mp empty
            | cons => exact last other (by rwa [List.getLast?_cons_cons] at atLast)
          · exact Or.inr ⟨by rw [taken, List.length_cons]; exact Nat.succ_lt_succ few, ended⟩
        · simp only [drainSlots, empty, Bool.false_eq_true, if_false, run, taken]
          rfl

/-- What a merge leaves of a cluster is an empty one. -/
theorem merge_left {merged : Event × Cluster} (built : c.Built) (merge : e.merge c = some merged) :
    merged.2 = .empty := by
  unfold Event.merge at merge
  split at merge
  · cases merge
  · split at merge
    · cases merge
    · cases merge
      exact built.merge_snd

theorem change_changed (possible : change.Possible) :
    e.Changed change (e.change change).1 (e.change change).2 := by
  cases change with
  | insert hit =>
    by_cases tracked : hit.plane ∈ e.planes
    · obtain ⟨before, held, after, slots, insert⟩ := insert_of_tracked tracked
      simp only [Event.change, insert]
      exact .inserted ⟨before, held, _, after, slots, rfl, held.hits_insert hit⟩
    · have untracked : e.tracks hit.plane = false := by simpa [tracks] using tracked
      simp only [Event.change, Event.insert, untracked, Bool.false_eq_true, if_false]
      exact .strange tracked
  | merge c =>
    have built := possible c rfl
    cases merge : e.merge c with
    | some merged =>
      obtain ⟨plane, on, grown⟩ := (joined_of_merge merge).grown
      obtain ⟨filled, own⟩ := (built.faithful.plane plane).mp on
      simp only [Event.change, merge, merge_left built merge]
      exact .merged filled own grown
    | none =>
      simp only [Event.change, merge]
      refine .refused ((unwelcome_iff built.faithful).mpr fun plane tracked on => ?_)
      obtain ⟨_, _, joins, _⟩ := merge_of_tracked on tracked
      rw [merge] at joins
      cases joins
  | clear =>
    refine .cleared e.planes_clear fun slot member => ?_
    obtain ⟨_, _, rfl⟩ := List.mem_map.mp member
    rfl
  | drain limit =>
    obtain ⟨reached, rest, slots, reach, run⟩ := drainSlots_reached limit e.slots
    simp only [Event.change, drainUpTo, run]
    exact .drained slots reach

/-- A change keeps the slots in order, whatever it takes in or out. -/
theorem Sound.changed (sound : e.Sound) (possible : change.Possible) : (e.change change).2.Sound := by
  cases change with
  | insert hit =>
    by_cases tracked : hit.plane ∈ e.planes
    · obtain ⟨before, held, after, slots, insert⟩ := insert_of_tracked tracked
      have atSlot : (hit.plane, held) ∈ e.slots := by simp [slots]
      simp only [Event.change, insert]
      refine sound.replace slots rfl ((sound.faithful _ atSlot).insert hit) fun other inside => ?_
      rw [Cluster.hits_insert, List.mem_append, List.mem_singleton] at inside
      rcases inside with earlier | rfl
      · exact sound.own _ atSlot other earlier
      · rfl
    · have untracked : e.tracks hit.plane = false := by simpa [tracks] using tracked
      simpa only [Event.change, Event.insert, untracked, Bool.false_eq_true, if_false] using sound
  | merge c =>
    cases merge : e.merge c with
    | some merged =>
      simp only [Event.change, merge]
      exact (joined_of_merge merge).sound sound (possible c rfl).faithful
    | none => simpa only [Event.change, merge] using sound
  | clear => exact .ofPlanes sound.distinct
  | drain limit =>
    obtain ⟨reached, rest, slots, _, run⟩ := drainSlots_reached limit e.slots
    have kept : ∀ slot ∈ (e.change (.drain limit)).2.slots, slot ∈ e.slots ∨ slot.2 = .empty := by
      intro slot member
      simp only [Event.change, drainUpTo, run, List.mem_append, List.mem_map] at member
      rcases member with ⟨_, _, rfl⟩ | behind
      · exact Or.inr rfl
      · exact Or.inl (by rw [slots]; exact List.mem_append_right reached behind)
    refine ⟨(planes_drainUpTo e limit).symm ▸ sound.distinct, fun slot member => ?_, fun slot member hit inside => ?_⟩
    · rcases kept slot member with old | new
      · exact sound.faithful slot old
      · exact new ▸ .empty
    · rcases kept slot member with old | new
      · exact sound.own slot old hit inside
      · rw [new] at inside
        cases inside

theorem Changed.planes_eq (changed : e.Changed change answer q) : q.planes = e.planes := by
  cases changed with
  | inserted grown | merged _ _ grown => exact grown.planes_eq
  | strange | refused => rfl
  | cleared planes => exact planes
  | drained slots => simp [Event.planes, slots]

/-- Nothing comes in or goes out but what the answer says. -/
theorem Changed.balance (changed : e.Changed change answer q) :
    (e.departures answer ++ q.hits).Perm (e.hits ++ change.arrivals answer) := by
  cases changed with
  | inserted grown | merged _ _ grown => exact grown.hits_perm
  | strange | refused => exact .of_eq (List.append_nil e.hits).symm
  | cleared _ blank =>
    have none : q.hits = [] := by
      rw [hits_eq, List.flatMap_eq_nil_iff]
      intro slot member
      rw [blank slot member, Cluster.hits_empty]
    rw [none]
    exact .refl _
  | @drained limit reached rest slots =>
    have taken : departures e (.drained ((reached.filter fun slot => !slot.2.isEmpty).map (·.2))) =
        reached.flatMap (·.2.hits) := (hits_eq_drain ⟨reached⟩).symm.trans (hits_eq _)
    have blank : (reached.map fun slot => (slot.1, Cluster.empty)).flatMap (·.2.hits) = [] := by
      rw [List.flatMap_map, List.flatMap_eq_nil_iff]
      exact fun slot _ => Cluster.hits_empty
    rw [taken, hits_eq, hits_eq, slots, List.flatMap_append, List.flatMap_append, blank]
    exact .of_eq (List.append_nil _).symm

/-- What an event holds is what came in and has not gone out. -/
structure Accounted (planes : List UInt8) (h : History) : Prop where
  sound : h.event.Sound
  planes : h.event.planes = planes
  balance : (h.gone ++ h.event.hits).Perm h.arrived

theorem Accounted.start (distinct : planes.Nodup) : Accounted planes { event := ofPlanes planes } :=
  ⟨.ofPlanes distinct, planes_ofPlanes planes, by simp⟩

theorem Accounted.perform {h : History} (accounted : Accounted planes h) (possible : change.Possible) :
    Accounted planes (h.perform change) := by
  have changed := @change_changed h.event change possible
  refine ⟨accounted.sound.changed possible, changed.planes_eq.trans accounted.planes, ?_⟩
  simp only [History.perform]
  rw [List.append_assoc]
  exact (changed.balance.append_left h.gone).trans
    (by rw [← List.append_assoc]; exact accounted.balance.append_right _)

theorem Accounted.performAll {h : History} (accounted : Accounted planes h) {changes : List Change}
    (possible : ∀ change ∈ changes, change.Possible) : Accounted planes (h.performAll changes) := by
  induction changes generalizing h with
  | nil => exact accounted
  | cons change rest ih =>
    obtain ⟨first, others⟩ := List.forall_mem_cons.mp possible
    exact ih (accounted.perform first) others

theorem Sound.timeStart_eq (sound : e.Sound) : e.timeStart = (e.hits.map (·.time)).min?.getD 0 := by
  by_cases none : e.hits = []
  · rw [timeStart, populated_eq_nil none, none]
    rfl
  · rw [(sound.times none).min?_eq, Option.getD_some]

theorem Sound.timeEnd_eq (sound : e.Sound) : e.timeEnd = (e.hits.map (·.time)).max?.getD 0 := by
  by_cases none : e.hits = []
  · rw [timeEnd, populated_eq_nil none, none]
    rfl
  · rw [(sound.times none).max?_eq, Option.getD_some]

theorem Sound.valid_slot (sound : e.Sound) {slot : UInt8 × Cluster} (member : slot ∈ e.slots)
    (filled : slot.2.hits ≠ []) : slot.2.isValid = true ∧ slot.2.plane = some slot.1 := by
  have faithful := sound.faithful slot member
  have plane := (faithful.plane slot.1).mpr ⟨filled, sound.own slot member⟩
  have pure : slot.2.mixed = false := by
    rw [← Bool.not_eq_true, faithful.mixed_iff, plane]
    simp
  refine ⟨?_, plane⟩
  rw [Cluster.isValid, Cluster.isEmpty_eq_false_iff.mpr filled, pure]
  rfl

theorem Changed.inserted_false_iff (changed : e.Changed (.insert hit) answer q) :
    (answer, q) = (.inserted false, e) ↔ hit.plane ∉ e.planes := by
  cases changed with
  | inserted grown => simp [grown.tracked]
  | strange strange => simp [strange]

theorem Changed.merged_false_iff (changed : e.Changed (.merge c) answer q) :
    (answer, q) = (.merged false c, e) ↔ Unwelcome e.planes c.hits := by
  cases changed with
  | merged filled own grown => simp [not_unwelcome filled own grown.tracked]
  | refused unwelcome => simp [unwelcome]

/-- Whatever is done to an event, its slots keep to their planes, and what it cannot take in changes neither the event
nor what was offered. -/
theorem changes_keep_slots (distinct : planes.Nodup) {changes : List Change}
    (possible : ∀ change ∈ changes, change.Possible) :
    let h := History.performAll { event := ofPlanes planes } changes
    h.event.planes = planes ∧
    (∀ slot ∈ h.event.slots, slot.2.hits ≠ [] → slot.2.isValid = true ∧ slot.2.plane = some slot.1) ∧
    (h.gone ++ h.event.hits).Perm h.arrived ∧ h.event.hitCount + h.gone.length = h.arrived.length ∧
    h.event.timeStart = (h.event.hits.map (·.time)).min?.getD 0 ∧
    h.event.timeEnd = (h.event.hits.map (·.time)).max?.getD 0 ∧
    (∀ change : Change, change.Possible →
      h.event.Changed change (h.event.change change).1 (h.event.change change).2) ∧
    (∀ hit, h.event.change (.insert hit) = (.inserted false, h.event) ↔ hit.plane ∉ planes) ∧
    ∀ c, c.Built → (h.event.change (.merge c) = (.merged false c, h.event) ↔ Unwelcome planes c.hits) := by
  intro h
  obtain ⟨sound, same, balance⟩ := (Accounted.start distinct).performAll possible
  have count := balance.length_eq
  rw [List.length_append] at count
  refine ⟨same, fun slot member filled => sound.valid_slot member filled, balance, (Nat.add_comm _ _).trans count,
    sound.timeStart_eq, sound.timeEnd_eq, fun change possible => change_changed possible, fun hit => ?_, fun c built => ?_⟩
  · have changed := @change_changed h.event (.insert hit) fun _ other => nomatch other
    exact changed.inserted_false_iff.trans (by rw [same])
  · have changed := @change_changed h.event (.merge c) fun _ own => by cases own; exact built
    exact changed.merged_false_iff.trans (by rw [same])

/-- A cluster of mixed planes is refused twice, before and after a drain that reaches two of three slots. -/
theorem changes_keep_slots_three :
    let mixed := Cluster.ofHits [⟨1, 0, 1, 1⟩, ⟨2, 1, 1, 1⟩]
    let changes : List Change := [.merge (.ofHits [⟨5, 1, 7, 2⟩, ⟨3, 1, 9, 1⟩]), .insert ⟨9, 2, 4, 1⟩, .merge mixed,
      .drain 1, .insert ⟨4, 0, 2, 2⟩]
    let h := History.performAll { event := ofPlanes [0, 1, 2] } changes
    h.gone = [⟨5, 1, 7, 2⟩, ⟨3, 1, 9, 1⟩] ∧ h.event.hitCount + 2 = 4 ∧ h.event.timeStart = 4 ∧ h.event.timeEnd = 9 ∧
      h.event.change (.merge mixed) = (.merged false mixed, h.event) := by
  intro mixed changes h
  have possible : ∀ change ∈ changes, change.Possible := by
    intro change member c merge
    subst merge
    simp only [changes, List.mem_cons, Change.merge.injEq, reduceCtorEq, false_or, or_false, List.not_mem_nil] at member
    rcases member with rfl | rfl <;> exact .ofHits _
  obtain ⟨_, _, _, count, start, stop, _, _, refused⟩ :=
    @changes_keep_slots [0, 1, 2] (by decide) changes possible
  have gone : h.gone = [⟨5, 1, 7, 2⟩, ⟨3, 1, 9, 1⟩] := by rfl
  have hits : h.event.hits = [⟨4, 0, 2, 2⟩, ⟨9, 2, 4, 1⟩] := by rfl
  refine ⟨gone, ?_, ?_, ?_, (refused mixed (.ofHits _)).mpr (Or.inr (Or.inl ?_))⟩
  · rfl
  · rw [start, hits]
    rfl
  · rw [stop, hits]
    rfl
  · exact ⟨⟨1, 0, 1, 1⟩, by simp [mixed], ⟨2, 1, 1, 1⟩, by simp [mixed], by decide⟩

end EventFormation.Event
