import EventFormation.Proofs.Receive.Filling

namespace EventFormation.SlotBuffer

/-- What can be asked of a buffer. -/
inductive Call
  | write (index offset : Nat) (bytes : List UInt8)
  | setLength (index length : Nat)
  | length (index : Nat)
  | data (index : Nat)
  | verifyGuard (index : Nat)
  | advance
  deriving DecidableEq

inductive Reply
  | done
  | number (value : Nat)
  | bytes (data : List UInt8)
  deriving DecidableEq

/-- The slot that a call is about. Moving on is about none. -/
def Call.index? : Call → Option Nat
  | write index _ _ | setLength index _ | length index | data index | verifyGuard index => some index
  | advance => none

/-- What is told of a change, and the buffer after it. -/
def settle (b : SlotBuffer) : Except SlotError SlotBuffer → Except SlotError Reply × SlotBuffer
  | .ok q => (.ok .done, q)
  | .error error => (.error error, b)

def serve (b : SlotBuffer) : Call → Except Fault (Except SlotError Reply × SlotBuffer)
  | .write index offset bytes => .ok (b.settle (b.write index offset bytes))
  | .setLength index length => .ok (b.settle (b.setLength index length))
  | .length index => .ok ((b.length index).map .number, b)
  | .data index => .ok ((b.data index).map .bytes, b)
  | .verifyGuard index => .ok ((b.verifyGuard index).map fun _ => .done, b)
  | .advance => do
    let next ← b.advance
    return (.ok (.number next.current), next)

/-- The replies to some calls one after another, and what has become of the buffer. -/
def replies (b : SlotBuffer) : List Call → Except Fault (List (Except SlotError Reply) × SlotBuffer)
  | [] => .ok ([], b)
  | call :: rest => do
    let (first, next) ← b.serve call
    let (others, last) ← next.replies rest
    return (first :: others, last)

/-- A slot in memory of its own. -/
structure Slot where
  bytes : List UInt8
  length : Nat

namespace Slot

def blank (size : Nat) : Slot := ⟨List.replicate size 0, 0⟩

/-- What a call makes of the slot that it is about. -/
def after (size : Nat) (slot : Slot) : Call → Slot
  | .write _ offset bytes => { slot with bytes := overlay slot.bytes offset bytes }
  | .setLength _ length => if length ≤ size then { slot with length } else slot
  | _ => slot

/-- What a slot replies to a call. -/
def reply (size : Nat) (slot : Slot) : Call → Except SlotError Reply
  | .setLength index length =>
    if length ≤ size then .ok .done else .error (.lengthExceedsCapacity index length size)
  | .length _ => .ok (.number slot.length)
  | .data _ => .ok (.bytes (slot.bytes.take slot.length))
  | _ => .ok .done

/-- What the calls that are about one slot have made of it. The others have no part in it. -/
def past (size index : Nat) (calls : List Call) : Slot :=
  (calls.filter fun call => call.index? = some index).foldl (after size) (blank size)

theorem past_append_self {size index : Nat} {call : Call} (about : call.index? = some index) (calls : List Call) :
    past size index (calls ++ [call]) = (past size index calls).after size call := by
  simp [past, List.filter_append, about]

theorem past_append_of_ne {size index : Nat} {call : Call} (apart : call.index? ≠ some index) (calls : List Call) :
    past size index (calls ++ [call]) = past size index calls := by
  simp [past, List.filter_append, apart]

theorem reply_eq_error {size index : Nat} {slot : Slot} {call : Call} {error : SlotError}
    (about : call.index? = some index) (refused : slot.reply size call = .error error) :
    ∃ length, call = .setLength index length ∧ size < length ∧
      error = .lengthExceedsCapacity index length size := by
  cases call <;> cases about
  case setLength length =>
    rw [reply] at refused
    split at refused
    · cases refused
    · rename_i large
      cases refused
      exact ⟨length, rfl, Nat.lt_of_not_le large, rfl⟩
  all_goals cases refused

end Slot

/-- How often a buffer has moved on. -/
def moves (calls : List Call) : Nat := calls.countP fun call => call.index? = none

theorem moves_append (calls : List Call) (call : Call) :
    moves (calls ++ [call]) = moves calls + if call.index? = none then 1 else 0 := by
  simp [moves, List.countP_append, List.countP_singleton]

/-- The reply of separate slots to a call that comes after others. -/
def reply (count size : Nat) (past : List Call) (call : Call) : Except SlotError Reply :=
  match call.index? with
  | none => .ok (.number ((moves past + 1) % count))
  | some index =>
    if index < count then (Slot.past size index past).reply size call
    else .error (.indexOutOfRange index count)

/-- The replies of separate slots to calls that come after others. -/
def repliesAfter (count size : Nat) (past : List Call) : List Call → List (Except SlotError Reply)
  | [] => []
  | call :: rest => reply count size past call :: repliesAfter count size (past ++ [call]) rest

/-- The memory of a buffer holds what separate slots do after some calls. -/
structure Holds (count size : Nat) (past : List Call) (b : SlotBuffer) : Prop where
  intact : b.Intact count size
  few : count < wordCount
  slot : ∀ index < count, b.slot index = (Slot.past size index past).bytes
  length : ∀ index < count, b.lengths.getD index 0 = (Slot.past size index past).length
  current : b.current = moves past % count

variable {b q : SlotBuffer} {count size index offset length : Nat} {bytes : List UInt8} {past : List Call}

/-- A call about a slot that there is not changes nothing. -/
theorem serve_of_outside {call : Call} (about : call.index? = some index) (outside : ¬ index < b.slots) :
    b.serve call = .ok (.error (.indexOutOfRange index b.slots), b) := by
  have refused := checkIndex_eq_error outside
  cases call <;> cases about
  case write offset bytes => rw [serve, SlotBuffer.write, refused]; rfl
  case setLength length => rw [serve, SlotBuffer.setLength, refused]; rfl
  case length => rw [serve, SlotBuffer.length, refused]; rfl
  case data => rw [serve, SlotBuffer.data, SlotBuffer.length, refused]; rfl
  case verifyGuard => rw [serve, SlotBuffer.verifyGuard, refused]; rfl

theorem Intact.advance_eq_ok (intact : b.Intact count size) (few : count < wordCount) (inside : b.current < count) :
    b.advance = .ok { b with current := (b.current + 1) % count } := by
  have next : (b.current + 1) % count < count := Nat.mod_lt _ (Nat.zero_lt_of_lt inside)
  rw [advance, intact.next_eq_ok few inside]
  simp only [bind, Except.bind, intact.assertGuard_eq_ok inside, intact.assertGuard_eq_ok next]
  rfl

namespace Holds

/-- What holds after a call about one slot that has touched no other. -/
theorem append {call : Call} (holds : Holds count size past b) (about : call.index? = some index)
    (intact : q.Intact count size) (current : q.current = b.current)
    (others : ∀ other < count, other ≠ index →
      q.slot other = b.slot other ∧ q.lengths.getD other 0 = b.lengths.getD other 0)
    (self : index < count → q.slot index = ((Slot.past size index past).after size call).bytes ∧
      q.lengths.getD index 0 = ((Slot.past size index past).after size call).length) :
    Holds count size (past ++ [call]) q := by
  -- Only the slot that the call is about has a longer past than before.
  have each : ∀ other < count, q.slot other = (Slot.past size other (past ++ [call])).bytes ∧
      q.lengths.getD other 0 = (Slot.past size other (past ++ [call])).length := by
    intro other inside
    by_cases same : other = index
    · subst same
      rw [Slot.past_append_self about]
      exact self inside
    · obtain ⟨slot, length⟩ := others other inside same
      rw [Slot.past_append_of_ne (by rw [about]; exact fun h => same (Option.some.inj h).symm), slot, length]
      exact ⟨holds.slot other inside, holds.length other inside⟩
  refine ⟨intact, holds.few, fun other inside => (each other inside).1, fun other inside => (each other inside).2, ?_⟩
  rw [moves_append, about, current]
  exact holds.current

/-- What holds after a call that has changed nothing. -/
theorem append_unchanged {call : Call} (holds : Holds count size past b) (about : call.index? = some index)
    (unchanged : index < count → (Slot.past size index past).after size call = Slot.past size index past) :
    Holds count size (past ++ [call]) b := by
  refine holds.append about holds.intact rfl (fun _ _ _ => ⟨rfl, rfl⟩) fun inside => ?_
  rw [unchanged inside]
  exact ⟨holds.slot index inside, holds.length index inside⟩

theorem write (holds : Holds count size past b) (inside : index < count) (offset : Nat) (bytes : List UInt8) :
    ∃ q, b.write index offset bytes = .ok q ∧ Holds count size (past ++ [.write index offset bytes]) q := by
  have within : index < b.slots := by rwa [holds.intact.slots]
  have run := write_eq_ok within offset bytes
  have lengths := lengths_write run within
  refine ⟨_, run, holds.append rfl (holds.intact.write run inside) rfl ?_ ?_⟩
  · intro other _ apart
    exact ⟨slot_write_of_ne run within apart, by rw [lengths]⟩
  · intro _
    rw [slot_write_self run within, lengths, holds.slot index inside]
    exact ⟨rfl, holds.length index inside⟩

theorem setLength (holds : Holds count size past b) (inside : index < count) (fits : length ≤ size) :
    Holds count size (past ++ [.setLength index length]) (b.note index length) := by
  have noted := @getD_note b index length (by rwa [holds.intact.lengths])
  refine holds.append rfl (holds.intact.note inside fits) rfl ?_ ?_
  · intro other _ apart
    exact ⟨rfl, by rw [noted, if_neg apart]⟩
  · intro _
    rw [noted, if_pos rfl, Slot.after, if_pos fits]
    exact ⟨holds.slot index inside, rfl⟩

theorem data (holds : Holds count size past b) (inside : index < count) :
    b.data index = .ok ((Slot.past size index past).bytes.take (Slot.past size index past).length) := by
  rw [holds.intact.data_eq inside, holds.intact.payloadAt_eq, holds.slot index inside, holds.length index inside]

theorem length_eq (holds : Holds count size past b) (inside : index < count) :
    b.length index = .ok (Slot.past size index past).length := by
  have within : index < b.slots := by rwa [holds.intact.slots]
  rw [SlotBuffer.length, checkIndex_eq_ok within, ← holds.length index inside]
  rfl

theorem current_lt (holds : Holds count size past b) : b.current < count := by
  rw [holds.current]
  exact Nat.mod_lt _ (by rw [← holds.intact.slots]; exact b.ring.size_pos)

theorem advance (holds : Holds count size past b) :
    ∃ q, b.advance = .ok q ∧ q.current = (moves past + 1) % count ∧ Holds count size (past ++ [.advance]) q := by
  have current : (b.current + 1) % count = (moves past + 1) % count := by rw [holds.current, Nat.mod_add_mod]
  refine ⟨_, holds.intact.advance_eq_ok holds.few holds.current_lt, current, ?_⟩
  have intact := holds.intact
  have apart (other : Nat) : Slot.past size other (past ++ [.advance]) = Slot.past size other past := by
    apply Slot.past_append_of_ne
    intro about
    cases about
  refine ⟨⟨intact.slots, intact.slotSize, intact.lengths, intact.short, intact.guards⟩, holds.few, ?_, ?_, ?_⟩
  · intro other inside
    rw [apart]
    exact holds.slot other inside
  · intro other inside
    rw [apart]
    exact holds.length other inside
  · rw [moves_append]
    exact current

theorem serve_inside {call : Call} (holds : Holds count size past b) (about : call.index? = some index)
    (inside : index < count) :
    ∃ q, b.serve call = .ok ((Slot.past size index past).reply size call, q) ∧
      Holds count size (past ++ [call]) q := by
  cases call <;> cases about
  case write offset bytes =>
    obtain ⟨q, run, next⟩ := holds.write inside offset bytes
    exact ⟨q, by rw [SlotBuffer.serve, run]; rfl, next⟩
  case setLength length =>
    rw [SlotBuffer.serve, Slot.reply]
    by_cases fits : length ≤ size
    · rw [holds.intact.setLength_eq_ok inside fits, if_pos fits]
      exact ⟨_, rfl, holds.setLength inside fits⟩
    · rw [holds.intact.setLength_eq_error inside fits, if_neg fits]
      exact ⟨b, rfl, holds.append_unchanged rfl fun _ => by rw [Slot.after, if_neg fits]⟩
  case length =>
    exact ⟨b, by rw [SlotBuffer.serve, holds.length_eq inside]; rfl, holds.append_unchanged rfl fun _ => rfl⟩
  case data =>
    exact ⟨b, by rw [SlotBuffer.serve, holds.data inside]; rfl, holds.append_unchanged rfl fun _ => rfl⟩
  case verifyGuard =>
    refine ⟨b, ?_, holds.append_unchanged rfl fun _ => rfl⟩
    rw [SlotBuffer.serve, holds.intact.verifyGuard_eq_ok inside]
    rfl

/-- A call is answered as by separate slots. -/
theorem serve (holds : Holds count size past b) (call : Call) :
    ∃ q, b.serve call = .ok (SlotBuffer.reply count size past call, q) ∧ Holds count size (past ++ [call]) q := by
  rw [SlotBuffer.reply]
  cases about : call.index? with
  | none =>
    cases call <;> cases about
    obtain ⟨q, run, current, next⟩ := holds.advance
    refine ⟨q, ?_, next⟩
    rw [SlotBuffer.serve, run, ← current]
    rfl
  | some index =>
    by_cases inside : index < count
    · simp only [if_pos inside]
      exact holds.serve_inside about inside
    · have slots := holds.intact.slots
      simp only [if_neg inside]
      refine ⟨b, ?_, holds.append_unchanged about fun within => absurd within inside⟩
      rw [serve_of_outside about (by rwa [slots]), slots]

/-- By induction on the calls, each of which finds a longer past. -/
theorem replies (holds : Holds count size past b) (calls : List Call) :
    ∃ q, b.replies calls = .ok (repliesAfter count size past calls, q) ∧ Holds count size (past ++ calls) q := by
  induction calls generalizing past b with
  | nil => exact ⟨b, rfl, by rwa [List.append_nil]⟩
  | cons call rest ih =>
    obtain ⟨next, first, holds⟩ := holds.serve call
    obtain ⟨last, others, holds⟩ := ih holds
    refine ⟨last, ?_, by simpa using holds⟩
    rw [SlotBuffer.replies, first]
    simp only [bind, Except.bind, others]
    rfl

theorem start (positive : 0 < count) (fits : count * (size + guardBytes.length) ≤ maxBlockBytes) :
    Holds count size [] (SlotBuffer.blank count size positive) := by
  refine ⟨blank_intact positive, lt_wordCount_of_fits fits, fun index _ => slot_blank rfl index, ?_, ?_⟩
  · intro index inside
    simp [SlotBuffer.blank, Array.getD_eq_getD_getElem?, inside]
    rfl
  · exact (Nat.zero_mod count).symm

end Holds

/-- A call that is refused has changed nothing. -/
theorem eq_of_serve_error {call : Call} {error : SlotError} (refused : b.serve call = .ok (.error error, q)) :
    q = b := by
  have settled {result : Except SlotError SlotBuffer} (run : b.settle result = (.error error, q)) : q = b := by
    cases result <;> cases run
    rfl
  cases call with
  | write index offset bytes => exact settled (Except.ok.inj refused)
  | setLength index length => exact settled (Except.ok.inj refused)
  | length index => exact (Prod.ext_iff.mp (Except.ok.inj refused)).2.symm
  | data index => exact (Prod.ext_iff.mp (Except.ok.inj refused)).2.symm
  | verifyGuard index => exact (Prod.ext_iff.mp (Except.ok.inj refused)).2.symm
  | advance =>
    obtain ⟨next, _, told⟩ := bind_eq_ok_iff.mp refused
    cases told

/-- The calls that separate slots refuse. -/
theorem reply_eq_error {call : Call} {error : SlotError} (refused : reply count size past call = .error error) :
    (∃ index, call.index? = some index ∧ count ≤ index ∧ error = .indexOutOfRange index count) ∨
      ∃ index length, call = .setLength index length ∧ index < count ∧ size < length ∧
        error = .lengthExceedsCapacity index length size := by
  unfold reply at refused
  split at refused
  · cases refused
  · rename_i index about
    split at refused
    · rename_i inside
      obtain ⟨length, same, large, told⟩ := Slot.reply_eq_error about refused
      exact Or.inr ⟨index, length, same, inside, large, told⟩
    · rename_i outside
      cases refused
      exact Or.inl ⟨index, about, Nat.le_of_not_lt outside, rfl⟩

theorem inside_of_write (run : b.write index offset bytes = .ok q) : index < b.slots := by
  by_contra outside
  rw [write, checkIndex_eq_error outside] at run
  cases run

/-- What a buffer shows after some calls, and what others can do to it. -/
structure Separate (count size : Nat) (past : List Call) (b : SlotBuffer) : Prop where
  data : ∀ index < count,
    b.data index = .ok ((Slot.past size index past).bytes.take (Slot.past size index past).length)
  length : ∀ index < count, b.length index = .ok (Slot.past size index past).length
  guard : ∀ index < count, b.verifyGuard index = .ok ()
  current : b.current = moves past % count
  advance : ∃ q, b.advance = .ok q ∧ q.current = (moves past + 1) % count
  write : ∀ index offset bytes q, b.write index offset bytes = .ok q → q.lengths = b.lengths ∧
    (∀ other, q.guard other = b.guard other) ∧ ∀ other, other ≠ index → q.slot other = b.slot other
  refused : ∀ call error q, b.serve call = .ok (.error error, q) → q = b ∧
    ((∃ index, call.index? = some index ∧ count ≤ index ∧ error = .indexOutOfRange index count) ∨
      ∃ index length, call = .setLength index length ∧ index < count ∧ size < length ∧
        error = .lengthExceedsCapacity index length size)

theorem Holds.separate (holds : Holds count size past b) : b.Separate count size past where
  data _ inside := holds.data inside
  length _ inside := holds.length_eq inside
  guard _ inside := holds.intact.verifyGuard_eq_ok inside
  current := holds.current
  advance := by
    obtain ⟨q, run, current, _⟩ := holds.advance
    exact ⟨q, run, current⟩
  write index offset bytes q run := by
    have inside := inside_of_write run
    exact ⟨lengths_write run inside, guard_write run inside, fun other apart => slot_write_of_ne run inside apart⟩
  refused call error q run := by
    obtain ⟨next, answered, _⟩ := holds.serve call
    rw [run] at answered
    have told := (Prod.ext_iff.mp (Except.ok.inj answered)).1
    exact ⟨eq_of_serve_error run, reply_eq_error told.symm⟩

theorem geometry_of_allocate {result : Except Fault SlotBuffer} (new : allocate count size = .ok result) :
    0 < count ∧ 0 < size := by
  unfold allocate Ring.ofSize? at new
  by_cases positive : 0 < count
  · by_cases none : size = 0
    · simp only [dif_pos positive, if_pos none] at new
      cases new
    · exact ⟨positive, Nat.pos_of_ne_zero none⟩
  · simp only [dif_neg positive] at new
    cases new

/-- One block of memory is as good as a memory for each slot: whatever is asked, it replies and goes on as
separate slots do, none of which can see or change another. -/
theorem replies_as_separate (count size : Nat) :
    ((∃ start, allocate count size = .ok (.ok start)) ↔
      0 < count ∧ 0 < size ∧ count * (size + guardBytes.length) ≤ maxBlockBytes) ∧
    ∀ start, allocate count size = .ok (.ok start) → ∀ calls, ∃ q,
      start.replies calls = .ok (repliesAfter count size [] calls, q) ∧ q.Separate count size calls := by
  refine ⟨⟨?_, ?_⟩, ?_⟩
  · rintro ⟨start, new⟩
    obtain ⟨positive, some⟩ := geometry_of_allocate new
    exact ⟨positive, some, ((allocate_eq_ok_iff positive some).mp new).1⟩
  · rintro ⟨positive, some, fits⟩
    exact ⟨_, (allocate_eq_ok_iff positive some).mpr ⟨fits, rfl⟩⟩
  · intro start new calls
    obtain ⟨positive, some⟩ := geometry_of_allocate new
    obtain ⟨fits, rfl⟩ := (allocate_eq_ok_iff positive some).mp new
    obtain ⟨q, run, holds⟩ := (Holds.start positive fits).replies calls
    exact ⟨q, run, holds.separate⟩

/-- A write that is too long stops before the guard, and what is out of range is refused. -/
theorem replies_as_separate_two :
    let calls := [.write 1 2 [7, 8, 9], .setLength 1 4, .setLength 0 5, .write 2 0 [6], .advance, .advance, .advance,
      .data 1, .length 0, .verifyGuard 1]
    ∃ start q, allocate 2 4 = .ok (.ok start) ∧ start.replies calls = .ok ([.ok .done, .ok .done,
      .error (.lengthExceedsCapacity 0 5 4), .error (.indexOutOfRange 2 2), .ok (.number 1), .ok (.number 0),
      .ok (.number 1), .ok (.bytes [0, 0, 7, 8]), .ok (.number 0), .ok .done], q) ∧ q.Separate 2 4 calls := by
  intro calls
  obtain ⟨accepted, runs⟩ := replies_as_separate 2 4
  obtain ⟨start, new⟩ := accepted.mpr (by decide)
  obtain ⟨q, run, separate⟩ := runs start new calls
  exact ⟨start, q, new, run, separate⟩

end EventFormation.SlotBuffer
