import EventFormation.Proofs.Receive.Filling
import EventFormation.Proofs.Receive.Queue

namespace EventFormation.Channel

/-- A channel with all payloads that were queued and taken so far, and what was taken last. -/
structure History where
  channel : Channel
  sent : List (List UInt8) := []
  popped : List (List UInt8) := []
  held : Option Datagram := none

/-- What either side can ask for. -/
inductive Command (ε : Type)
  | fill (call : Call ε)
  | pop

variable {ε : Type}

/-- A receiver does not report more bytes than a slot holds. -/
def Call.Fits (size : Nat) (call : Call ε) : Prop := ∀ length, call.reported size = some length → length ≤ size

/-- The payload that a call has queued, if it has. -/
def Call.queued (call : Call ε) (c : Channel) : Option Received → List (List UInt8)
  | some (.queued length) => [call.payload (c.buffer.slot c.cursor) length]
  | _ => []

theorem Call.queued_eq_nil (call : Call ε) (c : Channel) {result : Option Received}
    (other : ∀ length, result ≠ some (.queued length)) : call.queued c result = [] := by
  unfold Call.queued
  split
  · exact absurd rfl (other _)
  · rfl

def Command.Fits (size : Nat) : Command ε → Prop
  | fill call => call.Fits size
  | pop => True

namespace History

def perform (h : History) : Command ε → Except Fault History
  | .fill call => do
    let (result, channel) ← h.channel.fill call
    return { h with channel, sent := h.sent ++ call.queued h.channel result }
  | .pop => .ok (match h.channel.pop with
    | none => h
    | some (datagram, channel) =>
      { h with channel, popped := h.popped ++ [datagram.data], held := some datagram })

def performAll (h : History) (commands : List (Command ε)) : Except Fault History :=
  commands.foldlM perform h

end History

variable {c q : Channel} {count size : Nat} {bytes : List UInt8} {reported : Option Nat} {result : Option Received}

theorem Filled.ready (filled : Filled c bytes reported result q) (ready : c.Ready count size)
    (fits : ∀ length, reported = some length → length ≤ size) : q.Ready count size := by
  have kept {buffer : SlotBuffer} (write : c.buffer.write c.cursor 0 bytes = .ok buffer) :=
    ready.buffer.write write ready.cursor
  cases filled with
  | failed write none => exact ⟨kept write, ready.cursor, ready.few⟩
  | empty write none => exact ⟨kept write, ready.cursor, ready.few⟩
  | queued write report some push =>
    refine ⟨(kept write).note ready.cursor (fits _ report), ?_, ready.few⟩
    rw [ready.buffer.slots]
    exact Nat.mod_lt _ (Nat.zero_lt_of_lt ready.cursor)
  | dropped write report some push =>
    exact ⟨(kept write).note ready.cursor (fits _ report), ready.cursor, ready.few⟩

/-- No call touches what is in another slot. -/
theorem Filled.payloadAt_of_ne (filled : Filled c bytes reported result q) (ready : c.Ready count size)
    (fits : ∀ length, reported = some length → length ≤ size) {other : Nat} (apart : other ≠ c.cursor) :
    q.buffer.payloadAt other = c.buffer.payloadAt other := by
  have inside : c.cursor < c.buffer.slots := by
    rw [ready.buffer.slots]
    exact ready.cursor
  have intact := (filled.ready ready fits).buffer
  have same : q.buffer.slot other = c.buffer.slot other ∧
      q.buffer.lengths.getD other 0 = c.buffer.lengths.getD other 0 := by
    have written {buffer : SlotBuffer} (write : c.buffer.write c.cursor 0 bytes = .ok buffer) :
        buffer.slot other = c.buffer.slot other ∧ buffer.lengths = c.buffer.lengths :=
      ⟨SlotBuffer.slot_write_of_ne write inside apart, SlotBuffer.lengths_write write inside⟩
    have noted {buffer : SlotBuffer} (write : c.buffer.write c.cursor 0 bytes = .ok buffer) (length : Nat) :
        (buffer.note c.cursor length).lengths.getD other 0 = c.buffer.lengths.getD other 0 := by
      have lengths := (written write).2
      rw [SlotBuffer.getD_note (by rw [lengths, ready.buffer.lengths]; exact ready.cursor), if_neg apart,
        lengths]
    cases filled with
    | failed write none => exact ⟨(written write).1, by rw [(written write).2]⟩
    | empty write none => exact ⟨(written write).1, by rw [(written write).2]⟩
    | queued write report some push => exact ⟨(written write).1, noted write _⟩
    | dropped write report some push => exact ⟨(written write).1, noted write _⟩
  rw [intact.payloadAt_eq, ready.buffer.payloadAt_eq, same.1, same.2]

theorem Filled.eq_queued {length : Nat} (filled : Filled c bytes reported (some (.queued length)) q) :
    ∃ buffer queue, c.buffer.write c.cursor 0 bytes = .ok buffer ∧ reported = some length ∧ length ≠ 0 ∧
      c.queue.push c.cursor = some queue ∧
      q = ⟨buffer.note c.cursor length, queue, (c.cursor + 1) % c.buffer.slots⟩ := by
  cases filled with
  | queued write report some push => exact ⟨_, _, write, report, some, push, rfl⟩

theorem Filled.queued_iff (filled : Filled c bytes reported result q) (length : Nat) :
    result = some (.queued length) ↔ reported = some length ∧ length ≠ 0 ∧ c.queue.push c.cursor ≠ none := by
  cases filled with
  | failed write none => simp [none]
  | empty write none => grind
  | queued write report some push => grind
  | dropped write report some push => grind

theorem Filled.unqueued (filled : Filled c bytes reported result q)
    (other : ∀ length, result ≠ some (.queued length)) : q.cursor = c.cursor ∧ q.queue = c.queue := by
  cases filled with
  | failed write none => exact ⟨rfl, rfl⟩
  | empty write none => exact ⟨rfl, rfl⟩
  | queued write report some push => exact absurd rfl (other _)
  | dropped write report some push => exact ⟨rfl, rfl⟩

/-- What is queued is what the call has received. -/
theorem Filled.payloadAt_cursor {call : Call ε} {length : Nat}
    (filled : Filled c (call.bytes size) (call.reported size) (some (.queued length)) q)
    (ready : c.Ready count size) (fits : call.Fits size) :
    q.buffer.payloadAt c.cursor = call.payload (c.buffer.slot c.cursor) length := by
  have inside : c.cursor < c.buffer.slots := by
    rw [ready.buffer.slots]
    exact ready.cursor
  have intact := (filled.ready ready fits).buffer
  obtain ⟨buffer, queue, write, report, some, push, rfl⟩ := filled.eq_queued
  have lengths := SlotBuffer.lengths_write write inside
  have length' : (buffer.note c.cursor length).lengths.getD c.cursor 0 = length := by
    rw [SlotBuffer.getD_note (by rw [lengths, ready.buffer.lengths]; exact ready.cursor), if_pos rfl]
  have slot := SlotBuffer.slot_write_self write inside
  change (buffer.note c.cursor length).slot c.cursor = _ at slot
  rw [intact.payloadAt_eq, length', slot, SlotBuffer.overlay_zero]
  cases call with
  | receive reception => rw [Call.payload, Call.bytes]
  | send payload =>
    simp only [Call.reported] at report
    split at report
    · rename_i short
      cases report
      rw [Call.payload, Call.bytes, if_pos short, ready.buffer.length_slot, List.take_of_length_le short,
        List.take_left]
    · cases report

end EventFormation.Channel
