import EventFormation.Proofs.Receive.Memory
import EventFormation.Receive.Channel

namespace EventFormation

namespace SlotBuffer

/-- The bytes of a slot that hold data. -/
def payloadAt (b : SlotBuffer) (index : Nat) : List UInt8 :=
  b.bytesAt (index * b.stride) (b.lengths.getD index 0)

variable {b q : SlotBuffer} {count size index offset other length : Nat} {bytes : List UInt8}

theorem Intact.payloadAt_eq (intact : b.Intact count size) (index : Nat) :
    b.payloadAt index = (b.slot index).take (b.lengths.getD index 0) := by
  rw [payloadAt, slot]
  exact b.bytesAt_eq_take _ (by rw [intact.slotSize]; exact intact.short index)

theorem Intact.data_eq (intact : b.Intact count size) (inside : index < count) :
    b.data index = .ok (b.payloadAt index) := by
  rw [← intact.slots] at inside
  rw [data, SlotBuffer.length, checkIndex_eq_ok inside]
  rfl

theorem Intact.write (intact : b.Intact count size) (run : b.write index offset bytes = .ok q)
    (inside : index < count) : q.Intact count size := by
  rw [← intact.slots] at inside
  have guards := guard_write run inside
  rw [write_eq_ok inside] at run
  cases run
  exact ⟨intact.slots, intact.slotSize, intact.lengths, intact.short,
    fun other => (guards other).trans (intact.guards other)⟩

/-- The buffer after the length of a slot has been noted. -/
def note (b : SlotBuffer) (index length : Nat) : SlotBuffer :=
  { b with lengths := b.lengths.setIfInBounds index length }

theorem Intact.setLength_eq_ok (intact : b.Intact count size) (inside : index < count)
    (fits : length ≤ size) : b.setLength index length = .ok (b.note index length) := by
  rw [← intact.slots] at inside
  have small : ¬ length > b.slotSize := by
    rw [intact.slotSize]
    omega
  rw [setLength, checkIndex_eq_ok inside, if_neg small]
  rfl

theorem Intact.setLength_eq_error (intact : b.Intact count size) (inside : index < count) (large : ¬ length ≤ size) :
    b.setLength index length = .error (.lengthExceedsCapacity index length size) := by
  rw [← intact.slots] at inside
  rw [← intact.slotSize] at large ⊢
  rw [setLength, checkIndex_eq_ok inside, if_pos (Nat.lt_of_not_le large)]
  rfl

theorem getD_note (inside : index < b.lengths.size) (other : Nat) :
    (b.note index length).lengths.getD other 0 = if other = index then length else b.lengths.getD other 0 := by
  simp only [note, Array.getD_eq_getD_getElem?, Array.getElem?_setIfInBounds, inside]
  by_cases same : other = index
  · simp [same]
  · simp [same, Ne.symm same]

theorem Intact.note (intact : b.Intact count size) (inside : index < count) (fits : length ≤ size) :
    (b.note index length).Intact count size := by
  refine ⟨intact.slots, intact.slotSize, ?_, ?_, intact.guards⟩
  · simpa [SlotBuffer.note] using intact.lengths
  · intro other
    rw [getD_note (by rw [intact.lengths]; exact inside)]
    split
    · exact fits
    · exact intact.short other

theorem Intact.verifyGuard_eq_ok (intact : b.Intact count size) (inside : index < count) :
    b.verifyGuard index = .ok () := by
  have whole : b.bytesAt (index * b.stride + b.slotSize) guardBytes.length = guardBytes := intact.guards index
  rw [← intact.slots] at inside
  simp only [verifyGuard, checkIndex_eq_ok inside, whole, if_true]
  rfl

theorem Intact.assertGuard_eq_ok (intact : b.Intact count size) (inside : index < count) :
    b.assertGuard index = .ok () := by
  rw [assertGuard, intact.verifyGuard_eq_ok inside]

theorem Intact.next_eq_ok (intact : b.Intact count size) (few : count < wordCount) (inside : index < count) :
    b.ring.next index = .ok ((index + 1) % count) := by
  have below : index + 1 < wordCount := by omega
  rw [← intact.slots, Ring.next, checkedSum_eq_ok_iff.mpr ⟨below, rfl⟩]
  rfl

end SlotBuffer

namespace Channel

/-- What can be asked of the receiving side. -/
inductive Call (ε : Type)
  | receive (reception : Reception ε)
  | send (payload : List UInt8)

variable {ε : Type}

namespace Call

/-- The bytes put at the start of a slot of a size. -/
def bytes (size : Nat) : Call ε → List UInt8
  | receive reception => reception.bytes
  | send payload => if payload.length ≤ size then payload else []

/-- The number of bytes reported, unless the call fails. -/
def reported (size : Nat) : Call ε → Option Nat
  | receive reception => reception.outcome.toOption
  | send payload => if payload.length ≤ size then some payload.length else none

/-- What a call that reports so many bytes has received, given what was in the slot before: a
receiver can report more than it has put there. -/
def payload (slot : List UInt8) (length : Nat) : Call ε → List UInt8
  | receive reception => (reception.bytes.take slot.length ++ slot.drop reception.bytes.length).take length
  | send payload => payload

end Call

/-- How a call ended, none if it failed, and the channel after it. -/
def fill (c : Channel) : Call ε → Except Fault (Option Received × Channel)
  | .receive reception => do
    let (outcome, after) ← c.receive reception
    return (outcome.toOption, after)
  | .send payload => do
    match ← c.send payload with
    | .ok (received, after) => return (some received, after)
    | .error _ => return (none, c)

/-- A channel whose parts fit together. -/
structure Ready (count size : Nat) (c : Channel) : Prop where
  buffer : c.buffer.Intact count size
  cursor : c.cursor < count
  few : count < wordCount

theorem Ready.of_buffer {c q : Channel} {count size : Nat} (ready : c.Ready count size)
    (buffer : q.buffer = c.buffer) (cursor : q.cursor = c.cursor) : q.Ready count size :=
  ⟨buffer ▸ ready.buffer, cursor ▸ ready.cursor, ready.few⟩

/-- All that a call can do. -/
inductive Filled (c : Channel) (bytes : List UInt8) (reported : Option Nat) : Option Received → Channel → Prop
  | failed {buffer} : c.buffer.write c.cursor 0 bytes = .ok buffer → reported = none →
      Filled c bytes reported none { c with buffer }
  | empty {buffer} : c.buffer.write c.cursor 0 bytes = .ok buffer → reported = some 0 →
      Filled c bytes reported (some .empty) { c with buffer }
  | queued {buffer length queue} : c.buffer.write c.cursor 0 bytes = .ok buffer →
      reported = some length → length ≠ 0 → c.queue.push c.cursor = some queue →
      Filled c bytes reported (some (.queued length))
        { buffer := buffer.note c.cursor length, queue, cursor := (c.cursor + 1) % c.buffer.slots }
  | dropped {buffer length} : c.buffer.write c.cursor 0 bytes = .ok buffer →
      reported = some length → length ≠ 0 → c.queue.push c.cursor = none →
      Filled c bytes reported (some (.dropped length)) { c with buffer := buffer.note c.cursor length }

variable {c q : Channel} {count size : Nat} {bytes : List UInt8} {reported : Option Nat} {result : Option Received}

theorem handOver_eq_ok {buffer : SlotBuffer} {length : Nat} (ready : c.Ready count size)
    (write : c.buffer.write c.cursor 0 bytes = .ok buffer) (fits : length ≤ size) (some : length ≠ 0) :
    ∃ received q, handOver { c with buffer } length = .ok (received, q) ∧
      Filled c bytes (.some length) (.some received) q := by
  have written := ready.buffer.write write ready.cursor
  have noted := written.note ready.cursor fits
  have inside : (c.cursor + 1) % c.buffer.slots < count := by
    rw [ready.buffer.slots]
    exact Nat.mod_lt _ (Nat.zero_lt_of_lt ready.cursor)
  have next : buffer.ring.next c.cursor = .ok ((c.cursor + 1) % c.buffer.slots) := by
    rw [ready.buffer.slots]
    exact written.next_eq_ok ready.few ready.cursor
  unfold handOver
  simp only [setLength, written.setLength_eq_ok ready.cursor fits, next, bind, Except.bind,
    noted.assertGuard_eq_ok ready.cursor, noted.assertGuard_eq_ok inside]
  cases push : c.queue.push c.cursor with
  | none => exact ⟨_, _, rfl, .dropped write rfl some push⟩
  | some queue => exact ⟨_, _, rfl, .queued write rfl some push⟩

/-- A receive never fails for good, however the receiver behaves, as long as it does not report more
than it was given. -/
theorem receive_filled (ready : c.Ready count size) (reception : Reception ε)
    (fits : ∀ length, reception.outcome = .ok length → length ≤ size) :
    ∃ outcome q, c.receive reception = .ok (outcome, q) ∧
      Filled c reception.bytes reception.outcome.toOption outcome.toOption q := by
  have write := SlotBuffer.write_eq_ok (by rw [ready.buffer.slots]; exact ready.cursor) 0 reception.bytes
  unfold receive
  rw [write]
  cases outcome : reception.outcome with
  | error error => exact ⟨_, _, rfl, .failed write rfl⟩
  | ok length =>
    by_cases none : length = 0
    · subst none
      exact ⟨_, _, rfl, .empty write rfl⟩
    · obtain ⟨received, q, run, filled⟩ := handOver_eq_ok ready write (fits length outcome) none
      simp only [if_neg none, run]
      exact ⟨_, _, rfl, filled⟩

theorem fill_filled (ready : c.Ready count size) (call : Call ε)
    (fits : ∀ length, call.reported size = some length → length ≤ size) :
    ∃ result q, c.fill call = .ok (result, q) ∧
      Filled c (call.bytes size) (call.reported size) result q := by
  cases call with
  | receive reception =>
    obtain ⟨outcome, q, run, filled⟩ := receive_filled ready reception fun length same =>
      fits length (by rw [Call.reported, same]; rfl)
    refine ⟨outcome.toOption, q, ?_, filled⟩
    simp only [fill, run]
    rfl
  | send payload =>
    have slotSize : c.slotSize = size := ready.buffer.slotSize
    simp only [fill, send, receiveWith, slotSize, Call.bytes, Call.reported]
    by_cases inside : payload.length ≤ size
    · obtain ⟨outcome, q, run, filled⟩ := receive_filled ready
        (⟨payload, .ok payload.length⟩ : Reception SlotError) fun length same => by cases same; exact inside
      simp only [if_pos inside, Delivery.reception, run]
      cases outcome with
      | error error => cases filled with | failed write none => cases none
      | ok received => exact ⟨_, _, rfl, filled⟩
    · simp only [if_neg inside, Delivery.reception]
      have write : c.buffer.write c.cursor 0 [] = .ok c.buffer :=
        SlotBuffer.write_nil (by rw [ready.buffer.slots]; exact ready.cursor)
      simp only [receive, write]
      exact ⟨none, c, rfl, .failed write rfl⟩

end Channel

end EventFormation
