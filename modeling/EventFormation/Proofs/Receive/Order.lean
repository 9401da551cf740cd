import EventFormation.Proofs.Receive.Histories

namespace EventFormation.Channel

/-- What holds between any two calls. The payloads that are waiting and the one taken last are in
the slots that they were put into, one after another around the ring. -/
structure History.Sound (count size : Nat) (h : History) : Prop where
  ready : h.channel.Ready count size
  holds : h.channel.queue.Holds (· % count) h.popped.length h.sent.length
  capacity : h.channel.queue.capacity + reservedSlots = count
  cursor : h.channel.cursor = h.sent.length % count
  popped : h.popped = h.sent.take h.popped.length
  kept : ∀ turn payload, h.sent[turn]? = some payload → h.popped.length ≤ turn + 1 →
    h.channel.buffer.payloadAt (turn % count) = payload
  held : ∀ datagram, h.held = some datagram → ∃ turn, h.popped.length = turn + 1 ∧
    datagram.index = turn % count ∧ h.sent[turn]? = some datagram.data

namespace History

variable {ε : Type} {h next : History} {count size : Nat}

/-- The slot being filled is none of those that wait, nor the one taken last. -/
theorem Sound.cursor_ne (sound : h.Sound count size) {turn : Nat} (recent : h.popped.length ≤ turn + 1)
    (old : turn < h.sent.length) : turn % count ≠ h.channel.cursor := by
  have few := sound.holds.few
  have capacity := sound.capacity
  rw [sound.cursor]
  simp only [reservedSlots] at capacity
  exact HandoffQueue.mod_ne_of_lt old (by omega)

/-- A call that queues nothing leaves everything that is queued or held as it was. -/
theorem Sound.keep (sound : h.Sound count size) {channel : Channel} (ready : channel.Ready count size)
    (same : channel.cursor = h.channel.cursor ∧ channel.queue = h.channel.queue)
    (payloads : ∀ other, other ≠ h.channel.cursor →
      channel.buffer.payloadAt other = h.channel.buffer.payloadAt other) :
    Sound count size { h with channel } := by
  refine ⟨ready, ?_, ?_, same.1.trans sound.cursor, sound.popped, ?_, sound.held⟩
  · rw [same.2]
    exact sound.holds
  · rw [same.2]
    exact sound.capacity
  · intro turn payload there recent
    obtain ⟨old, _⟩ := List.getElem?_eq_some_iff.mp there
    rw [payloads _ (sound.cursor_ne recent old)]
    exact sound.kept turn payload there recent

theorem Sound.queue (sound : h.Sound count size) {call : Call ε} (fits : call.Fits size) {length : Nat}
    {channel : Channel}
    (filled : Filled h.channel (call.bytes size) (call.reported size) (some (.queued length)) channel)
    (counted : h.sent.length + 1 < wordCount) :
    Sound count size { h with
      channel, sent := h.sent ++ [call.payload (h.channel.buffer.slot h.channel.cursor) length] } := by
  have ready := filled.ready sound.ready fits
  have own := filled.payloadAt_cursor sound.ready fits
  have others : ∀ other, other ≠ h.channel.cursor →
      channel.buffer.payloadAt other = h.channel.buffer.payloadAt other :=
    fun other => filled.payloadAt_of_ne sound.ready fits
  obtain ⟨buffer, queue, write, report, some, push, rfl⟩ := filled.eq_queued
  have holds := sound.holds.push sound.cursor.symm counted push
  have earlier := sound.holds.ordered
  refine ⟨ready, ?_, ?_, ?_, ?_, ?_, ?_⟩
  · rw [List.length_append, List.length_singleton]
    exact holds
  · rw [HandoffQueue.capacity_push push]
    exact sound.capacity
  · rw [sound.ready.buffer.slots, sound.cursor, List.length_append, List.length_singleton]
    exact Nat.mod_add_mod ..
  · rw [List.take_append_of_le_length earlier]
    exact sound.popped
  · intro turn payload there recent
    rcases Nat.lt_or_ge turn h.sent.length with old | new
    · rw [List.getElem?_append_left old] at there
      rw [others _ (sound.cursor_ne recent old)]
      exact sound.kept turn payload there recent
    · rw [List.getElem?_append_right new] at there
      obtain ⟨last, value⟩ := List.getElem?_eq_some_iff.mp there
      have newest : turn = h.sent.length := by
        simp only [List.length_singleton] at last
        omega
      rw [newest, ← sound.cursor, own, ← value]
      simp
  · intro datagram there
    obtain ⟨turn, taken, index, data⟩ := sound.held datagram there
    refine ⟨turn, taken, index, ?_⟩
    rw [List.getElem?_append_left (List.getElem?_eq_some_iff.mp data).1]
    exact data

theorem Sound.pop (sound : h.Sound count size) {datagram : Datagram} {channel : Channel}
    (run : h.channel.pop = some (datagram, channel)) :
    Sound count size { h with channel, popped := h.popped ++ [datagram.data], held := some datagram } := by
  unfold Channel.pop at run
  split at run
  · cases run
  rename_i index queue pop
  cases run
  obtain ⟨place, waiting, holds⟩ := sound.holds.pop pop
  obtain ⟨payload, value⟩ : ∃ payload, h.sent[h.popped.length]? = some payload :=
    ⟨_, List.getElem?_eq_getElem waiting⟩
  have data : h.channel.buffer.payloadAt index = payload := by
    rw [place]
    exact sound.kept _ _ value (Nat.le_succ _)
  refine ⟨sound.ready.of_buffer rfl rfl, ?_, ?_, sound.cursor, ?_, ?_, ?_⟩
  · rw [List.length_append, List.length_singleton]
    exact holds
  · rw [HandoffQueue.capacity_pop pop]
    exact sound.capacity
  · rw [List.length_append, List.length_singleton, List.take_add_one, ← sound.popped, value]
    exact congrArg (h.popped ++ [·]) data
  · intro turn payload there recent
    rw [List.length_append, List.length_singleton] at recent
    exact sound.kept turn payload there (by omega)
  · intro last same
    cases same
    refine ⟨h.popped.length, by simp, place, ?_⟩
    rw [value]
    exact congrArg some data.symm

theorem Sound.perform (sound : h.Sound count size) {command : Command ε} (fits : command.Fits size)
    (run : h.perform command = .ok next) (counted : next.sent.length < wordCount) : next.Sound count size := by
  cases command with
  | pop =>
    cases pop : h.channel.pop with
    | none =>
      simp only [History.perform, pop] at run
      cases run
      exact sound
    | some taken =>
      simp only [History.perform, pop] at run
      cases run
      exact sound.pop pop
  | fill call =>
    obtain ⟨result, channel, fill, filled⟩ := fill_filled sound.ready call fits
    simp only [History.perform, fill] at run
    cases run
    by_cases queued : ∃ length, result = some (.queued length)
    · obtain ⟨length, rfl⟩ := queued
      exact sound.queue fits filled (by simpa [Call.queued] using counted)
    · have other : ∀ length, result ≠ some (.queued length) := fun length same => queued ⟨length, same⟩
      simp only [call.queued_eq_nil h.channel other, List.append_nil]
      exact sound.keep (filled.ready sound.ready fits) (filled.unqueued other)
        fun _ => filled.payloadAt_of_ne sound.ready fits

/-- No command fails for good, even once the turns can no longer be counted. -/
theorem perform_total (ready : h.channel.Ready count size) {command : Command ε} (fits : command.Fits size) :
    ∃ next, h.perform command = .ok next ∧ next.channel.Ready count size ∧
      h.sent.length ≤ next.sent.length := by
  cases command with
  | pop =>
    cases pop : h.channel.pop with
    | none => exact ⟨h, by simp only [History.perform, pop], ready, Nat.le_refl _⟩
    | some taken =>
      obtain ⟨datagram, channel⟩ := taken
      refine ⟨{ h with channel, popped := h.popped ++ [datagram.data], held := some datagram },
        by simp only [History.perform, pop], ?_, Nat.le_refl _⟩
      unfold Channel.pop at pop
      split at pop
      · cases pop
      · cases pop
        exact ready.of_buffer rfl rfl
  | fill call =>
    obtain ⟨result, channel, fill, filled⟩ := fill_filled ready call fits
    refine ⟨_, by simp only [History.perform, fill]; rfl, filled.ready ready fits, ?_⟩
    simp

theorem performAll_total (ready : h.channel.Ready count size) {commands : List (Command ε)}
    (fits : ∀ command ∈ commands, command.Fits size) :
    ∃ last, h.performAll commands = .ok last ∧ h.sent.length ≤ last.sent.length := by
  induction commands generalizing h with
  | nil => exact ⟨h, rfl, Nat.le_refl _⟩
  | cons command rest ih =>
    obtain ⟨next, run, ready, more⟩ := perform_total ready (fits command List.mem_cons_self)
    obtain ⟨last, runs, most⟩ := ih ready fun other member => fits other (List.mem_cons_of_mem command member)
    refine ⟨last, ?_, by omega⟩
    rw [performAll, List.foldlM_cons, run]
    exact runs

theorem Sound.performAll (sound : h.Sound count size) {commands : List (Command ε)}
    (fits : ∀ command ∈ commands, command.Fits size) {last : History}
    (run : h.performAll commands = .ok last) (counted : last.sent.length < wordCount) :
    last.Sound count size := by
  induction commands generalizing h with
  | nil =>
    cases run
    exact sound
  | cons command rest ih =>
    rw [History.performAll, List.foldlM_cons] at run
    obtain ⟨next, first, others⟩ := bind_eq_ok_iff.mp run
    have later : ∀ command ∈ rest, command.Fits size :=
      fun other member => fits other (List.mem_cons_of_mem command member)
    have few : next.sent.length ≤ last.sent.length := by
      obtain ⟨_, same, ready, _⟩ := perform_total sound.ready (fits command List.mem_cons_self)
      rw [first] at same
      cases same
      obtain ⟨_, same, most⟩ := performAll_total ready later
      rw [History.performAll, others] at same
      cases same
      exact most
    exact ih (sound.perform (fits command List.mem_cons_self) first (by omega)) later others

theorem Sound.contents_eq (sound : h.Sound count size) :
    h.channel.queue.contents =
      (List.range' h.popped.length (h.sent.length - h.popped.length)).map (· % count) :=
  sound.holds.contents_eq

/-- What waits in the queue is what was queued but not taken. -/
theorem Sound.sent_eq (sound : h.Sound count size) :
    h.sent = h.popped ++ h.channel.queue.contents.map h.channel.buffer.payloadAt := by
  have pending : h.channel.queue.contents.map h.channel.buffer.payloadAt = h.sent.drop h.popped.length := by
    rw [sound.contents_eq, List.map_map]
    apply List.ext_getElem
    · simp
    · intro place inside within
      have there : h.sent[h.popped.length + place]? = some (h.sent.drop h.popped.length)[place] := by
        rw [← List.getElem?_drop]
        exact List.getElem?_eq_getElem within
      simpa using sound.kept _ _ there (by omega)
  rw [pending]
  nth_rewrite 1 [← List.take_append_drop h.popped.length h.sent]
  rw [← sound.popped]

theorem Sound.cursor_not_mem (sound : h.Sound count size) : h.channel.cursor ∉ h.channel.queue.contents := by
  rw [sound.contents_eq]
  intro member
  obtain ⟨turn, inside, same⟩ := List.mem_map.mp member
  obtain ⟨offset, within, rfl⟩ := List.mem_range'.mp inside
  exact sound.cursor_ne (by omega) (by omega) same

/-- The slots that a reader has or will have are not the one being filled. -/
theorem Sound.apart (sound : h.Sound count size) {index : Nat}
    (used : index ∈ h.channel.queue.contents ∨ ∃ datagram, h.held = some datagram ∧ datagram.index = index) :
    index < count ∧ index ≠ h.channel.cursor := by
  have turned (turn : Nat) : turn % count < count := Nat.mod_lt _ (Nat.zero_lt_of_lt sound.ready.cursor)
  rcases used with waiting | ⟨datagram, held, rfl⟩
  · refine ⟨?_, fun same => sound.cursor_not_mem (same ▸ waiting)⟩
    rw [sound.contents_eq] at waiting
    obtain ⟨turn, _, rfl⟩ := List.mem_map.mp waiting
    exact turned turn
  · obtain ⟨turn, taken, index, data⟩ := sound.held datagram held
    rw [index]
    exact ⟨turned turn, sound.cursor_ne (by omega) (List.getElem?_eq_some_iff.mp data).1⟩

/-- What was taken last is still there. -/
theorem Sound.held_kept (sound : h.Sound count size) {datagram : Datagram}
    (held : h.held = some datagram) : datagram.index ≠ h.channel.cursor ∧
      h.channel.buffer.data datagram.index = .ok datagram.data := by
  obtain ⟨inside, apart⟩ := sound.apart (Or.inr ⟨datagram, held, rfl⟩)
  obtain ⟨turn, taken, index, data⟩ := sound.held datagram held
  refine ⟨apart, ?_⟩
  rw [sound.ready.buffer.data_eq inside, index, sound.kept turn _ data (by omega)]

end History

end EventFormation.Channel
