import EventFormation.Proofs.Receive.Order

namespace EventFormation

namespace Channel

variable {count size : Nat} {start : Channel}

/-- A channel that nothing has happened to. -/
def blank (count size : Nat) (positive : 0 < count) (several : 0 < count - reservedSlots) : Channel where
  buffer := { ring := ⟨count, positive⟩, slotSize := size, lengths := Array.replicate count 0 }
  queue := { ring := ⟨count - reservedSlots, several⟩, cells := Array.replicate (count - reservedSlots) none }

theorem allocate_eq_ok_iff (positive : 0 < count) (several : 0 < count - reservedSlots) (some : 1 ≤ size) :
    allocate count size = .ok (.ok start) ↔
      count * (size + SlotBuffer.guardBytes.length) ≤ maxBlockBytes ∧
        start = blank count size positive several := by
  simp only [allocate, Ring.ofSize?, dif_pos several]
  constructor
  · intro new
    obtain ⟨buffer, run, new⟩ := bind_eq_ok_iff.mp new
    obtain ⟨slots, made, new⟩ := bind_eq_ok_iff.mp (Except.ok.inj new)
    obtain ⟨queue, cells, new⟩ := bind_eq_ok_iff.mp new
    obtain ⟨_, _, cells⟩ := bind_eq_ok_iff.mp cells
    rw [made] at run
    obtain ⟨fits, rfl⟩ := (SlotBuffer.allocate_eq_ok_iff positive some).mp run
    cases cells
    cases new
    exact ⟨fits, rfl⟩
  · rintro ⟨fits, rfl⟩
    have small : (count - reservedSlots) * 8 ≤ maxBlockBytes := by
      have guarded : count * SlotBuffer.guardBytes.length ≤ count * (size + SlotBuffer.guardBytes.length) :=
        Nat.mul_le_mul_left count (Nat.le_add_left _ size)
      simp only [SlotBuffer.guardBytes, List.length_cons, List.length_nil] at guarded fits
      omega
    rw [(SlotBuffer.allocate_eq_ok_iff positive some).mpr ⟨fits, rfl⟩]
    simp only [HandoffQueue.ofRing, checkCapacity, if_pos small]
    rfl

theorem blank_sound (positive : 0 < count) (several : 0 < count - reservedSlots)
    (fits : count * (size + SlotBuffer.guardBytes.length) ≤ maxBlockBytes) :
    History.Sound count size { channel := blank count size positive several } := by
  have buffer : (blank count size positive several).buffer.Intact count size := SlotBuffer.blank_intact positive
  refine ⟨⟨buffer, positive, SlotBuffer.lt_wordCount_of_fits fits⟩,
    ⟨Array.size_replicate, rfl, rfl, Nat.le_refl _, Nat.zero_le _, ?_⟩, ?_, ?_, rfl, ?_, ?_⟩
  · intro turn _ late
    cases late
  · simp only [blank, HandoffQueue.capacity]
    omega
  · simp [blank]
  · intro turn payload there
    cases there
  · intro datagram none
    cases none

/-- Whatever both sides do in whatever order, datagrams come out as they went in, and no slot is
filled while it waits or is read. -/
theorem handed_over_in_order (ε : Type) (count size : Nat) (several : 3 ≤ count) (some : 1 ≤ size) :
    (count * (size + SlotBuffer.guardBytes.length) ≤ maxBlockBytes →
      ∃ start, allocate count size = .ok (.ok start)) ∧
    ∀ start, allocate count size = .ok (.ok start) →
      ∀ commands : List (Command ε), (∀ command ∈ commands, command.Fits size) →
        ∃ h, History.performAll { channel := start } commands = .ok h ∧ (h.sent.length < wordCount →
          h.popped <+: h.sent ∧
          h.sent = h.popped ++ h.channel.queue.contents.map h.channel.buffer.payloadAt ∧
          h.channel.cursor ∉ h.channel.queue.contents ∧
          (∀ datagram, h.held = .some datagram → datagram.index ≠ h.channel.cursor ∧
            h.channel.buffer.data datagram.index = .ok datagram.data) ∧
          ∀ call : Call ε, call.Fits size → ∃ result q, h.channel.fill call = .ok (result, q) ∧
            (∀ length, result = .some (.queued length) ↔ call.reported size = .some length ∧ length ≠ 0 ∧
              h.channel.queue.contents.length < count - 2) ∧
            ((∀ length, result ≠ .some (.queued length)) →
              q.cursor = h.channel.cursor ∧ q.queue = h.channel.queue ∧
              ∀ index, (index ∈ h.channel.queue.contents ∨ ∃ datagram, h.held = .some datagram ∧
                datagram.index = index) → q.buffer.data index = h.channel.buffer.data index)) := by
  have positive : 0 < count := by omega
  have room : 0 < count - reservedSlots := by
    rw [reservedSlots]
    omega
  refine ⟨fun fits => ⟨_, (allocate_eq_ok_iff positive room some).mpr ⟨fits, rfl⟩⟩, ?_⟩
  intro start new commands each
  obtain ⟨fits, rfl⟩ := (allocate_eq_ok_iff positive room some).mp new
  have blank := blank_sound positive room fits
  obtain ⟨h, run, _⟩ := History.performAll_total blank.ready each
  refine ⟨h, run, fun counted => ?_⟩
  have sound := blank.performAll each run counted
  have pending := sound.sent_eq
  refine ⟨⟨_, pending.symm⟩, pending, sound.cursor_not_mem, fun datagram held => sound.held_kept held, ?_⟩
  intro call fits
  obtain ⟨result, q, fill, filled⟩ := fill_filled sound.ready call fits
  refine ⟨result, q, fill, ?_, ?_⟩
  · intro length
    have capacity := sound.capacity
    rw [filled.queued_iff, ne_eq (h.channel.queue.push _), sound.holds.push_eq_none_iff, sound.contents_eq]
    simp only [reservedSlots, List.length_map, List.length_range'] at capacity ⊢
    refine and_congr_right fun _ => and_congr_right fun _ => ?_
    omega
  · intro other
    obtain ⟨cursor, queue⟩ := filled.unqueued other
    refine ⟨cursor, queue, fun index used => ?_⟩
    obtain ⟨inside, apart⟩ := sound.apart used
    rw [(filled.ready sound.ready fits).buffer.data_eq inside, sound.ready.buffer.data_eq inside,
      filled.payloadAt_of_ne sound.ready fits apart]

/-- Two datagrams through three slots, with a receive in between that fails after it has written. -/
theorem handed_over_two :
    let commands : List (Command Unit) := [.fill (.send [1, 2]), .fill (.receive ⟨[7], .error ()⟩), .pop,
      .fill (.send [3])]
    ∃ start h, allocate 3 2 = .ok (.ok start) ∧
      History.performAll { channel := start } commands = .ok h ∧ h.sent = [[1, 2], [3]] ∧
      h.popped <+: h.sent ∧ h.channel.cursor ∉ h.channel.queue.contents := by
  intro commands
  have fits : ∀ command ∈ commands, command.Fits 2 := by
    simp [commands, Command.Fits, Call.Fits, Call.reported, Except.toOption]
  obtain ⟨allocated, runs⟩ := handed_over_in_order Unit 3 2 (by decide) (by decide)
  obtain ⟨start, new⟩ := allocated (by decide)
  obtain ⟨h, run, ordered⟩ := runs start new commands fits
  have sent : (((allocate 3 2).toOption.bind (·.toOption)).bind fun c =>
      (History.performAll { channel := c } commands).toOption.map (·.sent)) = some [[1, 2], [3]] := by
    decide +kernel
  rw [new] at sent
  simp only [Except.toOption, Option.bind_some, run, Option.map_some, Option.some.injEq] at sent
  obtain ⟨before, _, apart, _⟩ := ordered (by rw [sent]; decide)
  exact ⟨start, h, new, run, sent, before, apart⟩

end Channel

end EventFormation
