import EventFormation.Proofs.Receive.Queue
import Mathlib.Data.Nat.Basic

namespace EventFormation.HandoffQueue

/-- What is asked of a queue, by one owner or by its two ends in any order. -/
inductive Command (α : Type)
  | push (value : α)
  | pop

inductive Reply (α : Type)
  | accepted
  | /-- The value is handed back. -/ refused (value : α)
  | taken (value : α)
  | nothing
  deriving DecidableEq

def Reply.isAccepted {α : Type} : Reply α → Bool
  | accepted => true
  | _ => false

section Serving

variable {α σ : Type}

def serve (q : HandoffQueue α) : Command α → Reply α × HandoffQueue α
  | .push value =>
    match q.push value with
    | some next => (.accepted, next)
    | none => (.refused value, q)
  | .pop =>
    match q.pop with
    | some (value, next) => (.taken value, next)
    | none => (.nothing, q)

/-- How a line of at most `capacity` values is served. -/
def serveLine (capacity : Nat) (queued : List α) : Command α → Reply α × List α
  | .push value => if queued.length < capacity then (.accepted, queued ++ [value]) else (.refused value, queued)
  | .pop =>
    match queued with
    | [] => (.nothing, [])
    | oldest :: rest => (.taken oldest, rest)

/-- The replies to some commands, and what has become of the state. -/
def replies (step : σ → Command α → Reply α × σ) (state : σ) : List (Command α) → List (Reply α) × σ
  | [] => ([], state)
  | command :: rest =>
    let first := step state command
    let others := replies step first.2 rest
    (first.1 :: others.1, others.2)

variable {step : σ → Command α → Reply α × σ}

theorem replies_append (state : σ) (commands others : List (Command α)) :
    replies step state (commands ++ others) =
      let first := replies step state commands
      let second := replies step first.2 others
      (first.1 ++ second.1, second.2) := by
  induction commands generalizing state with
  | nil => rfl
  | cons command rest ih => simp only [List.cons_append, replies, ih]

theorem getLast?_replies (state : σ) (commands : List (Command α)) (next last : Command α) :
    (replies step state (commands ++ [next, last])).1.getLast? =
      some (step (step (replies step state commands).2 next).2 last).1 := by
  simp [replies_append, replies]

theorem room_of_accepted {capacity : Nat} {queued : List α} {command : Command α}
    (accepted : (serveLine capacity queued command).1.isAccepted = true) : queued.length < capacity := by
  cases command with
  | push value =>
    by_contra full
    rw [serveLine, if_neg full] at accepted
    cases accepted
  | pop => cases queued <;> cases accepted

/-- A line answers pushes for which there is room by taking the values in. -/
theorem replies_push {capacity : Nat} {queued values : List α} (room : queued.length + values.length ≤ capacity) :
    replies (serveLine capacity) queued (values.map .push) =
      (List.replicate values.length .accepted, queued ++ values) := by
  induction values generalizing queued with
  | nil => simp [replies]
  | cons value rest ih =>
    rw [List.length_cons] at room
    have free : queued.length < capacity := by omega
    rw [List.map_cons, replies, serveLine, if_pos free]
    dsimp only
    rw [ih (by rw [List.length_append, List.length_singleton]; omega), List.append_assoc, List.singleton_append]
    rfl

/-- A line in which each of some values is taken at once, and then as many others as have room are left. -/
theorem replies_turns {capacity : Nat} {values : List α} (room : values.length ≤ capacity) (some : 0 < capacity)
    (value : α) (turns : Nat) :
    ∃ answers, replies (serveLine capacity) []
        ((List.replicate turns [Command.push value, .pop]).flatten ++ values.map .push) = (answers, values) ∧
      answers.countP Reply.isAccepted = turns + values.length := by
  induction turns with
  | zero =>
    refine ⟨List.replicate values.length .accepted, ?_, by simp [List.countP_replicate, Reply.isAccepted]⟩
    exact replies_push (by simpa using room)
  | succ turns ih =>
    obtain ⟨answers, run, count⟩ := ih
    refine ⟨.accepted :: .taken value :: answers, ?_, ?_⟩
    · rw [List.replicate_succ, List.flatten_cons, List.append_assoc, replies_append]
      have turn : replies (serveLine capacity) [] [Command.push value, .pop] = ([.accepted, .taken value], []) := by
        simp [replies, serveLine, some]
      rw [turn]
      dsimp only
      rw [run]
      rfl
    · rw [List.countP_cons, List.countP_cons, count]
      simp only [Reply.isAccepted, if_true, Bool.false_eq_true, if_false]
      omega

end Serving

variable {α : Type} {taken : Nat} {queued : List α} {q : HandoffQueue α}

/-- The queue holds a line of values, of which so many have been taken before. The cursors have gone on
from word to word, past the last one to zero. -/
structure InLine (taken : Nat) (queued : List α) (q : HandoffQueue α) : Prop where
  small : q.capacity < wordCount
  cells : q.cells.size = q.capacity
  few : queued.length ≤ q.capacity
  read : q.read.toNat = taken % wordCount
  write : q.write.toNat = (taken + queued.length) % wordCount
  kept : ∀ place value, queued[place]? = some value →
    q.cells[q.ring.position ((taken + place) % wordCount)]? = some (some value)

/-- The cell of the next value is none of those that are in use. -/
def Apart (size taken count : Nat) : Prop :=
  ∀ place < count, (taken + place) % wordCount % size ≠ (taken + count) % wordCount % size

theorem apart_of_dvd {size count : Nat} (even : size ∣ wordCount) (few : count < size) (taken : Nat) :
    Apart size taken count := by
  intro place before
  rw [Nat.mod_mod_of_dvd _ even, Nat.mod_mod_of_dvd _ even]
  exact mod_ne_of_lt (by omega) (by omega)

theorem apart_of_lt {size count : Nat} (few : count < size) (early : taken + count < wordCount) :
    Apart size taken count := by
  intro place before
  have earlier : taken + place < wordCount := by omega
  rw [Nat.mod_eq_of_lt early, Nat.mod_eq_of_lt earlier]
  exact mod_ne_of_lt (by omega) (by omega)

namespace InLine

theorem length (inLine : InLine taken queued q) : q.length = queued.length := by
  have small := inLine.small
  have few := inLine.few
  have read := inLine.read
  have write := inLine.write
  rw [HandoffQueue.length, UInt64.toNat_sub, read, write]
  simp only [wordCount] at *
  omega

theorem isEmpty (inLine : InLine taken queued q) : q.isEmpty = queued.isEmpty := by
  rw [HandoffQueue.isEmpty, inLine.length]
  cases queued <;> rfl

theorem isFull (inLine : InLine taken queued q) : q.isFull = decide (q.capacity ≤ queued.length) := by
  rw [HandoffQueue.isFull, inLine.length]

theorem push_full (inLine : InLine taken queued q) (full : ¬ queued.length < q.capacity) (value : α) :
    q.push value = none := by
  rw [HandoffQueue.push, inLine.isFull, if_pos (by simpa using full)]

theorem push_eq (inLine : InLine taken queued q) (room : queued.length < q.capacity) (value : α) :
    q.push value = some { q with
      cells := q.cells.setIfInBounds (q.ring.position ((taken + queued.length) % wordCount)) (some value)
      write := q.write + 1 } := by
  rw [HandoffQueue.push, inLine.isFull, if_neg (by simpa using room), inLine.write]

theorem push (inLine : InLine taken queued q) (room : queued.length < q.capacity)
    (apart : Apart q.capacity taken queued.length) (value : α) :
    ∃ p, q.push value = some p ∧ InLine taken (queued ++ [value]) p := by
  refine ⟨_, inLine.push_eq room value, inLine.small, ?_, ?_, inLine.read, ?_, ?_⟩
  · simpa [capacity] using inLine.cells
  · rw [List.length_append]
    exact room
  · have write := inLine.write
    rw [UInt64.toNat_add, UInt64.toNat_one, write, List.length_append, List.length_singleton]
    simp only [wordCount]
    omega
  · intro place other there
    have inside : q.ring.position ((taken + queued.length) % wordCount) < q.cells.size := by
      rw [inLine.cells]
      exact q.ring.position_lt _
    simp only [Array.getElem?_setIfInBounds, inside, if_true]
    by_cases old : place < queued.length
    · rw [List.getElem?_append_left old] at there
      have free : ¬ q.ring.position ((taken + queued.length) % wordCount) =
          q.ring.position ((taken + place) % wordCount) := Ne.symm (apart place old)
      rw [if_neg free]
      exact inLine.kept place other there
    · rw [List.getElem?_append_right (by omega), List.getElem?_singleton] at there
      split at there
      · rename_i newest
        cases there
        rw [if_pos (by rw [show place = queued.length by omega])]
      · cases there

theorem pop_empty (inLine : InLine taken [] q) : q.pop = none := by
  have same : q.read = q.write := by
    rw [← UInt64.toNat_inj, inLine.read, inLine.write]
    rfl
  rw [HandoffQueue.pop, same, if_pos (beq_self_eq_true _)]

theorem pop {oldest : α} (inLine : InLine taken (oldest :: queued) q) :
    ∃ p, q.pop = some (oldest, p) ∧ InLine (taken + 1) queued p := by
  have small := inLine.small
  have few := inLine.few
  have read := inLine.read
  have write := inLine.write
  rw [List.length_cons] at few write
  have other : ¬ (q.read == q.write) = true := by
    rw [beq_iff_eq, ← UInt64.toNat_inj, read, write]
    simp only [wordCount] at *
    omega
  have front := inLine.kept 0 oldest rfl
  rw [Nat.add_zero, ← read] at front
  refine ⟨{ q with read := q.read + 1 }, ?_, small, inLine.cells, ?_, ?_, ?_, ?_⟩
  · rw [HandoffQueue.pop, if_neg other, front]
  · simp only [capacity] at few ⊢
    omega
  · rw [UInt64.toNat_add, UInt64.toNat_one, read]
    simp only [wordCount]
    omega
  · rw [write, Nat.add_assoc, Nat.add_comm 1]
  · intro place value there
    have kept := inLine.kept (place + 1) value (by rwa [List.getElem?_cons_succ])
    rwa [Nat.add_comm place, ← Nat.add_assoc] at kept

/-- A command is answered as by a line, and every accepted value is in line or taken. -/
theorem serve (inLine : InLine taken queued q) (command : Command α)
    (apart : (serveLine q.capacity queued command).1.isAccepted = true → Apart q.capacity taken queued.length) :
    (q.serve command).1 = (serveLine q.capacity queued command).1 ∧
      (q.serve command).2.capacity = q.capacity ∧
      ∃ taken', InLine taken' (serveLine q.capacity queued command).2 (q.serve command).2 ∧
        taken' + (serveLine q.capacity queued command).2.length =
          taken + queued.length + if (serveLine q.capacity queued command).1.isAccepted then 1 else 0 := by
  cases command with
  | push value =>
    by_cases room : queued.length < q.capacity
    · obtain ⟨p, run, next⟩ := inLine.push room (apart (by simp [serveLine, room, Reply.isAccepted])) value
      simp only [HandoffQueue.serve, serveLine, run, if_pos room, true_and]
      exact ⟨capacity_push run, taken, next, by simp [Reply.isAccepted, Nat.add_assoc]⟩
    · simp only [HandoffQueue.serve, serveLine, inLine.push_full room, if_neg room, true_and]
      exact ⟨taken, inLine, rfl⟩
  | pop =>
    cases queued with
    | nil =>
      simp only [HandoffQueue.serve, serveLine, inLine.pop_empty, true_and]
      exact ⟨taken, inLine, rfl⟩
    | cons oldest rest =>
      obtain ⟨p, run, next⟩ := inLine.pop
      simp only [HandoffQueue.serve, serveLine, run, true_and]
      refine ⟨capacity_pop run, taken + 1, next, ?_⟩
      simp only [List.length_cons, Reply.isAccepted, Bool.false_eq_true, if_false]
      omega

/-- Commands are answered as by a line if the cells are in step with the word, or for as long as the
cursors have not come to its end. -/
theorem replies {size : Nat} (inLine : InLine taken queued q) (sized : q.capacity = size)
    (commands : List (Command α))
    (steady : size ∣ wordCount ∨ taken + queued.length +
      (HandoffQueue.replies (serveLine size) queued commands).1.countP Reply.isAccepted ≤ wordCount) :
    let last := HandoffQueue.replies HandoffQueue.serve q commands
    let meant := HandoffQueue.replies (serveLine size) queued commands
    last.1 = meant.1 ∧ last.2.capacity = size ∧ ∃ taken', InLine taken' meant.2 last.2 ∧
      taken' + meant.2.length = taken + queued.length + meant.1.countP Reply.isAccepted := by
  induction commands generalizing taken queued q with
  | nil => exact ⟨rfl, sized, taken, inLine, rfl⟩
  | cons command rest ih =>
    simp only [HandoffQueue.replies, List.countP_cons] at steady ⊢
    have served := inLine.serve command
    rw [sized] at served
    obtain ⟨reply, kept, taken', next, count⟩ := served fun accepted => by
      have room := room_of_accepted accepted
      rcases steady with even | early
      · exact apart_of_dvd even room taken
      · rw [if_pos accepted] at early
        exact apart_of_lt room (by omega)
    obtain ⟨others, keeps, taken'', last, total⟩ := ih next kept (steady.imp_right fun early => by omega)
    exact ⟨by rw [reply, others], keeps, taken'', last, by omega⟩

/-- If the cursors come to the end of the word while the oldest value is in the first cell, the next value
takes its place. -/
theorem lost (inLine : InLine taken queued q) (room : queued.length < q.capacity) (some : queued ≠ [])
    (whole : taken + queued.length = wordCount) (even : q.capacity ∣ taken) (value : α) :
    ∃ p rest, q.serve (.push value) = (.accepted, p) ∧ p.serve .pop = (.taken value, rest) := by
  have small := inLine.small
  have count := List.length_pos_of_ne_nil some
  have size := Nat.le_of_dvd (by omega) even
  have read : q.read.toNat = taken := inLine.read.trans (Nat.mod_eq_of_lt (by omega))
  have write : (taken + queued.length) % wordCount = 0 := by rw [whole, Nat.mod_self]
  have other : ¬ (q.read == q.write + 1) = true := by
    rw [beq_iff_eq, ← UInt64.toNat_inj, UInt64.toNat_add, UInt64.toNat_one, read, inLine.write, write]
    omega
  have last : q.ring.position taken = 0 := Nat.mod_eq_zero_of_dvd even
  have first : q.ring.position 0 = 0 := Nat.zero_mod _
  have inside : 0 < q.cells.size := by
    rw [inLine.cells]
    omega
  let p := { q with cells := q.cells.setIfInBounds 0 (Option.some value), write := q.write + 1 }
  have push : q.push value = Option.some p := by
    rw [inLine.push_eq room value, write, first]
  have pop : p.pop = Option.some (value, { p with read := p.read + 1 }) := by
    rw [HandoffQueue.pop, if_neg other]
    simp only [p, read, last, Array.getElem?_setIfInBounds_self_of_lt inside]
  exact ⟨p, _, by rw [HandoffQueue.serve, push], by rw [HandoffQueue.serve, pop]⟩

theorem start {ring : Ring} (new : ofRing ring = .ok q) : InLine 0 [] q ∧ q.capacity = ring.size := by
  obtain ⟨_, small, new⟩ := bind_eq_ok_iff.mp new
  have bounded : ring.size < wordCount := by
    unfold checkCapacity at small
    split at small
    · rename_i fits
      simp only [maxBlockBytes, wordCount] at *
      omega
    · cases small
  cases new
  exact ⟨⟨bounded, by simp [capacity], Nat.zero_le _, rfl, rfl, by simp⟩, rfl⟩

end InLine

/-- The queue answers some commands as a line of its capacity does, and says afterwards that it is as long
as that queued. -/
structure InOrder (q : HandoffQueue α) (commands : List (Command α)) : Prop where
  replies : (replies serve q commands).1 = (replies (serveLine q.capacity) [] commands).1
  length : (HandoffQueue.replies serve q commands).2.length =
    (HandoffQueue.replies (serveLine q.capacity) [] commands).2.length
  isEmpty : (HandoffQueue.replies serve q commands).2.isEmpty =
    (HandoffQueue.replies (serveLine q.capacity) [] commands).2.isEmpty
  isFull : (HandoffQueue.replies serve q commands).2.isFull =
    decide (q.capacity ≤ (HandoffQueue.replies (serveLine q.capacity) [] commands).2.length)

section Wrapping

variable {ring : Ring}

theorem inOrder_of_steady (new : ofRing ring = .ok q) (commands : List (Command α)) (steady : ring.size ∣ wordCount ∨
    (replies (serveLine ring.size) [] commands).1.countP Reply.isAccepted ≤ wordCount) : q.InOrder commands := by
  obtain ⟨blank, sized⟩ := InLine.start new
  obtain ⟨same, kept, taken, last, _⟩ := blank.replies sized commands (by simpa using steady)
  rw [← sized] at same last kept
  exact ⟨same, last.length, last.isEmpty, by rw [last.isFull, kept]⟩

/-- Where the cursors start again, the cells do not, unless the word is a multiple of their number: the
value that is pushed there takes the cell of one that is still in queued. -/
theorem overrun (new : ofRing ring = .ok q) {turns extra : Nat} (whole : turns + (extra + 1) = wordCount)
    (even : ring.size ∣ turns) (few : extra + 1 < ring.size) (first second : α) :
    let commands := (List.replicate turns [Command.push first, .pop]).flatten ++
      (first :: List.replicate extra second).map .push ++ [.push second, .pop]
    (replies serve q commands).1.getLast? = some (.taken second) ∧
      (replies (serveLine ring.size) [] commands).1.getLast? = some (.taken first) ∧
      (first ≠ second → ¬ q.InOrder commands) := by
  intro commands
  obtain ⟨blank, sized⟩ := InLine.start new
  let values := first :: List.replicate extra second
  have queue : values.length = extra + 1 := by simp [values]
  have fits : values.length ≤ ring.size := by omega
  obtain ⟨answers, meant, accepted⟩ := replies_turns fits ring.size_pos first turns
  have total : ((0 : Nat) + ([] : List α).length + answers.countP Reply.isAccepted) = wordCount := by
    rw [accepted, queue, ← whole]
    simp
  have served := blank.replies sized ((List.replicate turns [Command.push first, .pop]).flatten ++
    values.map .push) (by rw [meant]; exact Or.inr (Nat.le_of_eq total))
  rw [meant] at served
  obtain ⟨same, kept, taken, inLine, count⟩ := served
  rw [total, queue] at count
  have room : values.length < ring.size := by omega
  have ended : taken + values.length = wordCount := by omega
  have start : ring.size ∣ taken := by rwa [show taken = turns by omega]
  rw [← kept] at room start
  obtain ⟨p, rest, push, pop⟩ := inLine.lost room (List.cons_ne_nil _ _) ended start second
  have answered : (replies serve q commands).1.getLast? = some (.taken second) := by
    rw [getLast?_replies, push, pop]
  have expected : (replies (serveLine ring.size) [] commands).1.getLast? = some (.taken first) := by
    rw [getLast?_replies, meant]
    simp [serveLine, values, few]
  refine ⟨answered, expected, fun other inOrder => ?_⟩
  rw [inOrder.replies, sized, expected] at answered
  cases answered
  exact other rfl

/-- A queue can be made unless its cells are more than a block of memory holds. As a line of its capacity it
answers all commands there are just if the size of the word is a multiple of the number of its cells.
Whatever their number is, it does so until more values have been accepted than there are words. -/
theorem inOrder_iff [Nontrivial α] (ring : Ring) :
    ((∃ q : HandoffQueue α, ofRing ring = .ok q) ↔ ring.size * 8 ≤ maxBlockBytes) ∧
      ∀ q : HandoffQueue α, ofRing ring = .ok q → q.capacity = ring.size ∧
        ((∀ commands, q.InOrder commands) ↔ ring.size ∣ wordCount) ∧
        ∀ commands, (replies (serveLine ring.size) [] commands).1.countP Reply.isAccepted ≤ wordCount →
          q.InOrder commands := by
  refine ⟨?_, fun q new => ⟨(InLine.start new).2, ⟨fun all => ?_, fun even commands => ?_⟩, fun commands few => ?_⟩⟩
  · unfold ofRing checkCapacity
    split
    · rename_i fits
      exact ⟨fun _ => fits, fun _ => ⟨_, rfl⟩⟩
    · rename_i large
      refine ⟨?_, fun fits => absurd fits large⟩
      rintro ⟨q, new⟩
      cases new
  · by_contra odd
    obtain ⟨first, second, other⟩ := exists_pair_ne α
    have below := Nat.mod_lt wordCount ring.size_pos
    have some : wordCount % ring.size ≠ 0 := fun none => odd (Nat.dvd_of_mod_eq_zero none)
    have small := (InLine.start new).1.small
    rw [(InLine.start new).2] at small
    have whole : wordCount - wordCount % ring.size + (wordCount % ring.size - 1 + 1) = wordCount := by omega
    exact (overrun new whole (Nat.dvd_sub_mod wordCount) (by omega) first second).2.2 other (all _)
  · exact inOrder_of_steady new commands (Or.inl even)
  · exact inOrder_of_steady new commands (Or.inr few)

/-- Four cells are always in step with the word. Three cells are in order for a start. -/
theorem inOrder_four :
    ∃ four three : HandoffQueue Nat, ofRing ⟨4, by decide⟩ = .ok four ∧ ofRing ⟨3, by decide⟩ = .ok three ∧
      (∀ commands, four.InOrder commands) ∧
      three.InOrder [.push 5, .push 6, .pop, .push 7, .push 8, .push 9, .pop] ∧
      (replies serve three [.push 5, .push 6, .pop, .push 7, .push 8, .push 9, .pop]).1 =
        [.accepted, .accepted, .taken 5, .accepted, .accepted, .refused 9, .taken 6] := by
  obtain ⟨four, new⟩ := (@inOrder_iff Nat _ ⟨4, by decide⟩).1.mpr (by decide)
  obtain ⟨three, new'⟩ := (@inOrder_iff Nat _ ⟨3, by decide⟩).1.mpr (by decide)
  have always := ((inOrder_iff ⟨4, by decide⟩).2 four new).2.1.mpr (by decide)
  have first := ((inOrder_iff ⟨3, by decide⟩).2 three new').2.2
    [.push 5, .push 6, .pop, .push 7, .push 8, .push 9, .pop] (by decide)
  refine ⟨four, three, new, new', always, first, ?_⟩
  rw [first.replies, ((inOrder_iff ⟨3, by decide⟩).2 three new').1]
  decide

/-- Seven cells: the cursors come to the end of the word with the oldest value in the first cell, so the
next but one is pushed over it and taken in its place. -/
theorem not_inOrder_seven :
    let commands : List (Command Nat) :=
      (List.replicate 18446744073709551614 [Command.push 1, .pop]).flatten ++ [.push 1, .push 2] ++ [.push 2, .pop]
    ∃ q : HandoffQueue Nat, ofRing ⟨7, by decide⟩ = .ok q ∧
      (replies serve q commands).1.getLast? = some (.taken 2) ∧
      (replies (serveLine 7) [] commands).1.getLast? = some (.taken 1) ∧ ¬ q.InOrder commands := by
  -- The number of turns is far too large to be computed with, so only what it adds up to is kept.
  have whole : 18446744073709551614 + (1 + 1) = wordCount := rfl
  generalize 18446744073709551614 = turns at whole ⊢
  have new : ofRing ⟨7, by decide⟩ =
    .ok { ring := ⟨7, by decide⟩, cells := Array.replicate 7 (none : Option Nat) } := rfl
  have even : 7 ∣ turns := by
    simp only [wordCount] at whole
    omega
  obtain ⟨answered, meant, apart⟩ := overrun new whole even (by decide) 1 2
  exact ⟨_, new, answered, meant, apart (by decide)⟩

end Wrapping

end EventFormation.HandoffQueue
