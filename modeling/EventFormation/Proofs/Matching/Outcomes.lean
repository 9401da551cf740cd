import EventFormation.Proofs.Matching.EndPolls

namespace EventFormation

/-- How events relate to the chains of the clusters that they are made of: there is one for each chain,
or there are more. -/
structure Outcome (maxDelta : Nat) (planes : List UInt8) (clusters : List Cluster) (events : List Event)
    (groups : List (List Cluster)) : Prop where
  sound : ∀ e ∈ events, e.Sound ∧ e.planes = planes ∧ e.hits ≠ []
  chains : Chains maxDelta groups
  parts : groups.flatten.Perm clusters
  idle : groups = [] → events = []
  atLeast : groups.length ≤ events.length
  made : events.length = groups.length → List.Forall₂ Event.Made events groups

theorem Outcome.perm {maxDelta : Nat} {planes : List UInt8} {clusters clusters' : List Cluster} {events : List Event}
    {groups : List (List Cluster)} (outcome : Outcome maxDelta planes clusters events groups)
    (same : clusters.Perm clusters') : Outcome maxDelta planes clusters' events groups :=
  { outcome with parts := outcome.parts.trans same }

namespace Matcher

variable {m q : Matcher} {maxDelta : UInt64} {events others : List Event} {closed groups : List (List Cluster)}
  {group remade waiting more : List Cluster}

theorem Matched.flush_outcome (matched : Matched m true q) (rule : m.rule = (MatchPolicy.endProximity maxDelta).rule)
    (distinct : m.planes.Nodup) (tracked : ∀ c ∈ m.unmatched, c.Tracked m.planes) (taken : m.events = []) :
    ∃ groups, Outcome maxDelta.toNat m.planes m.unmatched q.events groups ∧ q.events.length = groups.length := by
  obtain ⟨events, groups, closing, chains, parts, made⟩ := matched.flush_chains rule distinct tracked
  obtain ⟨events', settled⟩ := matched.settled tracked
  rw [taken, List.nil_append] at closing
  have same : q.events = events' := by rw [settled.events, taken, List.nil_append]
  rw [← closing] at made
  refine ⟨groups, ⟨same ▸ settled.sound, chains, parts, ?_, made.length_eq.ge, fun _ => made⟩, made.length_eq⟩
  rintro rfl
  exact List.forall₂_nil_right_iff.mp made

/-- What is not final ends after what a poll has put back. -/
theorem Polled.beyond {time : Nat} (polled : Polled maxDelta.toNat m q events closed group remade waiting)
    (late : ∀ c ∈ more, m.isReady c = false) (remadeEnd : EndsAt remade time) :
    ∀ c ∈ waiting ++ more, time < c.timeEnd.toNat := by
  obtain ⟨last, atLast, value⟩ := remadeEnd.1
  have notReady : ∀ c ∈ waiting ++ more, m.isReady c = false := by
    intro c member
    rcases List.mem_append.mp member with old | new
    · exact polled.late c old
    · exact late c new
  intro c member
  by_contra before
  have final := isReady_of_le (polled.ready last atLast) (show c.timeEnd.toNat ≤ last.timeEnd.toNat by omega)
  rw [notReady c member] at final
  cases final

/-- A closed event is apart from the event in progress, however it is continued, and from those after it. -/
theorem Polled.apart_resumed {time : Nat} {added : List Cluster} {rest : List (List Cluster)}
    (polled : Polled maxDelta.toNat m q events closed group remade waiting) (groupEnd : EndsAt group time)
    (beyond : ∀ c ∈ waiting ++ more, time < c.timeEnd.toNat)
    (further : (waiting ++ more).Perm (added ++ rest.flatten)) :
    ∀ earlier ∈ closed, ∀ later ∈ (group ++ added) :: rest, Apart maxDelta.toNat earlier later := by
  intro earlier member later atLater c atEarlier d inside
  obtain ⟨last, atLast, value⟩ := groupEnd.1
  have far := polled.apart earlier member c atEarlier last (List.mem_append_left waiting atLast)
  have through : d ∈ group ∨ d ∈ added ++ rest.flatten := by
    rcases List.mem_cons.mp atLater with rfl | behind
    · exact (List.mem_append.mp inside).imp_right fun new => List.mem_append_left _ new
    · exact Or.inr (List.mem_append_right _ (List.mem_flatten.mpr ⟨later, behind, inside⟩))
  rcases through with old | new
  · exact polled.apart earlier member c atEarlier d (List.mem_append_left waiting old)
  · have after := beyond d (further.mem_iff.mpr new)
    omega

/-- An event that was made of what a poll had put back is made of what the event in progress was made of. -/
theorem Polled.made_resumed {e : Event} {start added : List Cluster}
    (polled : Polled maxDelta.toNat m q events closed group remade waiting) (made : e.Made start)
    (resumed : start.Perm (remade ++ added)) : e.Made (group ++ added) := by
  have hits := made.trans (resumed.flatMap_right Cluster.hits)
  rw [List.flatMap_append] at hits
  rw [Event.Made, List.flatMap_append]
  exact hits.trans (polled.hits.append_right _)

/-- If the event in progress keeps together, polling for some events makes no difference to what is formed in the
end, and if not there are more events. -/
theorem Polled.outcome (polled : Polled maxDelta.toNat m q events closed group remade waiting)
    (sound : ∀ e ∈ events, e.Sound ∧ e.planes = m.planes ∧ e.hits ≠ [])
    (late : ∀ c ∈ more, m.isReady c = false)
    (rest : Outcome maxDelta.toNat m.planes (q.unmatched ++ more) others groups) :
    ∃ whole, Outcome maxDelta.toNat m.planes (m.unmatched ++ more) (events ++ others) whole ∧
      ((events ++ others).length = whole.length ↔
        Linked maxDelta.toNat remade ∧ others.length = groups.length) := by
  have all : ∀ e ∈ events ++ others, e.Sound ∧ e.planes = m.planes ∧ e.hits ≠ [] := by
    intro e member
    rcases List.mem_append.mp member with first | later
    · exact sound e first
    · exact rest.sound e later
  have parts := rest.parts.trans (polled.after.append_right more)
  rw [List.append_assoc] at parts
  have earlier := polled.before.symm.append_right more
  rcases polled.ends with ⟨rfl, rfl, rfl⟩ | ⟨time, groupEnd, remadeEnd⟩
  · have none : events = [] := List.forall₂_nil_right_iff.mp polled.made
    subst none
    exact ⟨groups, ⟨rest.sound, rest.chains, parts.trans earlier, rest.idle, rest.atLeast, rest.made⟩, by simp [Linked]⟩
  · have beyond := polled.beyond late remadeEnd
    obtain ⟨broken, start, added, others', split, chains, further, resumed, whole⟩ :=
      rest.chains.resume parts remadeEnd beyond polled.linked groupEnd
    subst split
    have apart := polled.apart_resumed groupEnd beyond further
    have closes := polled.made.length_eq
    have count := rest.atLeast
    rw [List.length_append, List.length_cons] at count
    refine ⟨closed ++ (group ++ added) :: others', ⟨all, polled.chains.append chains apart, ?_, by simp, ?_, ?_⟩, ?_⟩
    · have pieces := (further.symm.append_left group).append_left closed.flatten
      rw [List.append_assoc, List.append_assoc] at earlier
      rw [List.flatten_append, List.flatten_cons, List.append_assoc]
      exact pieces.trans earlier
    · rw [List.length_append, List.length_append, List.length_cons]
      omega
    · intro equal
      rw [List.length_append, List.length_append, List.length_cons] at equal
      have none : broken = [] := List.eq_nil_of_length_eq_zero (by omega)
      have made := rest.made (by rw [List.length_append, List.length_cons]; omega)
      rw [none, List.nil_append] at made
      obtain ⟨first, later, atFirst, atLater, rfl⟩ := List.forall₂_cons_right_iff.mp made
      exact List.rel_append polled.made (.cons (polled.made_resumed atFirst (resumed none)) atLater)
    · rw [whole, List.length_append, List.length_append, List.length_append, List.length_cons, List.length_cons]
      constructor
      · intro equal
        exact ⟨List.eq_nil_of_length_eq_zero (by omega), by omega⟩
      · rintro ⟨rfl, equal⟩
        rw [List.length_nil] at equal
        omega

end Matcher

end EventFormation
