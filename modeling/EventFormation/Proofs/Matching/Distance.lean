import EventFormation.Matching.Rule
import Mathlib.Algebra.Order.Ring.Nat

namespace EventFormation

open Float.Model Float.Model.UnpackedFloat

namespace Rounding

/-- Orders mantissas together with what was cut off below them. -/
def rank (em : ExtendedMantissa) : Nat :=
  4 * em.mantissa + 2 * em.roundBit.toNat + em.stickyBit.toNat

theorem rank_shiftRightOne {a b : ExtendedMantissa} (ordered : rank a ≤ rank b) :
    rank a.shiftRightOne ≤ rank b.shiftRightOne := by
  obtain ⟨m, r, s⟩ := a
  obtain ⟨m', r', s'⟩ := b
  have bit := Nat.mod_two_eq_zero_or_one m
  have bit' := Nat.mod_two_eq_zero_or_one m'
  simp only [rank, ExtendedMantissa.shiftRightOne] at ordered ⊢
  rcases bit with bit | bit <;> rcases bit' with bit' | bit' <;> rw [bit, bit'] <;>
    cases r <;> cases s <;> cases r' <;> cases s' <;> simp_all <;> omega

theorem rank_shiftRight {a b : ExtendedMantissa} (ordered : rank a ≤ rank b) (places : Nat) :
    rank (a >>> places) ≤ rank (b >>> places) := by
  induction places with
  | zero => exact ordered
  | succ places ih => exact rank_shiftRightOne ih

theorem roundedMantissa_mono {a b : ExtendedMantissa} (ordered : rank a ≤ rank b) :
    a.roundedMantissa ≤ b.roundedMantissa := by
  obtain ⟨m, r, s⟩ := a
  obtain ⟨m', r', s'⟩ := b
  simp only [rank] at ordered
  cases r <;> cases s <;> cases r' <;> cases s' <;>
    simp_all [ExtendedMantissa.roundedMantissa, ExtendedMantissa.accuracy, Accuracy.roundToNearestEven] <;>
    omega

theorem mantissa_shiftRight (em : ExtendedMantissa) (places : Nat) :
    (em >>> places).mantissa = em.mantissa / 2 ^ places := by
  induction places with
  | zero => simp [HShiftRight.hShiftRight, Nat.repeat]
  | succ places ih =>
    show (em >>> places).mantissa / 2 = _
    rw [ih, Nat.div_div_eq_div_mul, Nat.pow_succ]

theorem roundedMantissa_bounds (em : ExtendedMantissa) :
    em.mantissa ≤ em.roundedMantissa ∧ em.roundedMantissa ≤ em.mantissa + 1 := by
  obtain ⟨m, r, s⟩ := em
  cases r <;> cases s <;>
    simp [ExtendedMantissa.roundedMantissa, ExtendedMantissa.accuracy, Accuracy.roundToNearestEven]
  omega

/-- The significand of a count of 53 bits, still with a carry. -/
def carried (n : Nat) : Nat :=
  (ExtendedMantissa.mk (n * 2 ^ (52 - n.log2)) false false >>> (n.log2 - 52)).roundedMantissa

/-- The significand and the exponent of a count. -/
def significand (n : Nat) : Nat × Int :=
  if carried n < 2 ^ 53 then (carried n, (n.log2 : Int) - 52) else (2 ^ 52, (n.log2 : Int) - 51)

theorem carried_bounds {n : Nat} (some : n ≠ 0) : 2 ^ 52 ≤ carried n ∧ carried n ≤ 2 ^ 53 := by
  have low := Nat.log2_self_le some
  have high := Nat.lt_log2_self (n := n)
  obtain ⟨atLeast, atMost⟩ := roundedMantissa_bounds
    (ExtendedMantissa.mk (n * 2 ^ (52 - n.log2)) false false >>> (n.log2 - 52))
  rw [mantissa_shiftRight] at atLeast atMost
  dsimp only at atLeast atMost
  have whole : 2 ^ 52 ≤ n * 2 ^ (52 - n.log2) / 2 ^ (n.log2 - 52) := by
    rw [Nat.le_div_iff_mul_le (Nat.two_pow_pos _), ← Nat.pow_add]
    calc 2 ^ (52 + (n.log2 - 52)) = 2 ^ n.log2 * 2 ^ (52 - n.log2) := by rw [← Nat.pow_add]; congr 1; omega
      _ ≤ n * 2 ^ (52 - n.log2) := Nat.mul_le_mul_right _ low
  have bounded : n * 2 ^ (52 - n.log2) / 2 ^ (n.log2 - 52) < 2 ^ 53 := by
    rw [Nat.div_lt_iff_lt_mul (Nat.two_pow_pos _), ← Nat.pow_add]
    calc n * 2 ^ (52 - n.log2) < 2 ^ (n.log2 + 1) * 2 ^ (52 - n.log2) :=
          Nat.mul_lt_mul_of_pos_right high (Nat.two_pow_pos _)
      _ = 2 ^ (53 + (n.log2 - 52)) := by rw [← Nat.pow_add]; congr 1; omega
  exact ⟨whole.trans atLeast, atMost.trans bounded⟩

theorem carried_mono {a b : Nat} (same : a.log2 = b.log2) (ordered : a ≤ b) : carried a ≤ carried b := by
  unfold carried
  rw [same]
  apply roundedMantissa_mono
  apply rank_shiftRight
  have scaled := Nat.mul_le_mul_right (2 ^ (52 - b.log2)) ordered
  simp only [rank, Bool.toNat_false]
  omega

theorem significand_bounds {n : Nat} (some : n ≠ 0) :
    2 ^ 52 ≤ (significand n).1 ∧ (significand n).1 < 2 ^ 53 ∧
      ((significand n).2 = (n.log2 : Int) - 52 ∨ (significand n).2 = (n.log2 : Int) - 51) := by
  obtain ⟨low, high⟩ := carried_bounds some
  unfold significand
  split
  · rename_i fits
    exact ⟨low, fits, Or.inl rfl⟩
  · exact ⟨Nat.le_refl _, Nat.pow_lt_pow_right (by decide) (by decide), Or.inr rfl⟩

/-- A count that is not less has a greater exponent or the same one and a significand that is not less. -/
theorem significand_mono {a b : Nat} (some : a ≠ 0) (ordered : a ≤ b) :
    (significand a).2 < (significand b).2 ∨
      (significand a).2 = (significand b).2 ∧ (significand a).1 ≤ (significand b).1 := by
  have someLater : b ≠ 0 := by omega
  obtain ⟨low, high⟩ := carried_bounds some
  obtain ⟨low', high'⟩ := carried_bounds someLater
  have longer : a.log2 ≤ b.log2 := (Nat.le_log2 someLater).mpr ((Nat.log2_self_le some).trans ordered)
  rcases Nat.lt_or_eq_of_le longer with shorter | same
  · unfold significand
    split <;> split <;> simp only <;> omega
  · have mono := carried_mono same ordered
    unfold significand
    split <;> split <;> simp only <;> omega

theorem targetExponent_eq (m : Nat) (e : Int) (above : -1021 ≤ (m.log2 : Int) + e) :
    Format.binary64.targetExponent (totalExponent m e) = (m.log2 : Int) + e - 52 := by
  show max ((m.log2 : Int) + 1 + e - 53) (-1074) = _
  omega

theorem log2_of_bounds {m : Nat} (low : 2 ^ 52 ≤ m) (high : m < 2 ^ 53) : m.log2 = 52 :=
  (Nat.log2_eq_iff (by omega)).mpr ⟨low, high⟩

theorem log2_mul_two_pow {n : Nat} (some : n ≠ 0) (places : Nat) : (n * 2 ^ places).log2 = n.log2 + places := by
  rw [Nat.log2_eq_iff (Nat.mul_ne_zero some (Nat.two_pow_pos _).ne')]
  constructor
  · rw [Nat.pow_add]
    exact Nat.mul_le_mul_right _ (Nat.log2_self_le some)
  · rw [Nat.add_right_comm, Nat.pow_add]
    exact Nat.mul_lt_mul_of_pos_right Nat.lt_log2_self (Nat.two_pow_pos _)

theorem shift_whole {n : Nat} (some : n ≠ 0) :
    shiftToTargetExponent Format.binary64 (n * 2 ^ (52 - n.log2)) (0 - ((52 - n.log2 : Nat) : Int)) .exact =
      (ExtendedMantissa.mk (n * 2 ^ (52 - n.log2)) false false >>> (n.log2 - 52), (n.log2 : Int) - 52) := by
  have extended := log2_mul_two_pow some (52 - n.log2)
  have target := targetExponent_eq (n * 2 ^ (52 - n.log2)) (0 - ((52 - n.log2 : Nat) : Int)) (by omega)
  have places : ((n * 2 ^ (52 - n.log2)).log2 + (0 - ((52 - n.log2 : Nat) : Int)) - 52 -
      (0 - ((52 - n.log2 : Nat) : Int))).toNat = n.log2 - 52 := by omega
  have exponent : 0 - ((52 - n.log2 : Nat) : Int) + ((n.log2 - 52 : Nat) : Int) = (n.log2 : Int) - 52 := by omega
  simp only [shiftToTargetExponent, target, shiftToExponent, places, exponent,
    ExtendedMantissa.ofMantissaAndAccuracy]

theorem shift_fits {m : Nat} {e : Int} (low : 2 ^ 52 ≤ m) (high : m < 2 ^ 53) (above : -1000 ≤ e) :
    shiftToTargetExponent Format.binary64 m e .exact = (ExtendedMantissa.mk m false false, e) := by
  have bits := log2_of_bounds low high
  have target := targetExponent_eq m e (by omega)
  have places : ((m.log2 : Int) + e - 52 - e).toNat = 0 := by omega
  simp only [shiftToTargetExponent, target, shiftToExponent, places, ExtendedMantissa.ofMantissaAndAccuracy,
    Int.natCast_zero, Int.add_zero]
  rfl

theorem shift_carry {e : Int} (above : -1000 ≤ e) :
    shiftToTargetExponent Format.binary64 (2 ^ 53) e .exact =
      (ExtendedMantissa.mk (2 ^ 52) false false, e + 1) := by
  have bits : Nat.log2 (2 ^ 53) = 53 := Nat.log2_two_pow
  have target := targetExponent_eq (2 ^ 53) e (by omega)
  have places : ((Nat.log2 (2 ^ 53) : Int) + e - 52 - e).toNat = 1 := by omega
  simp only [shiftToTargetExponent, target, shiftToExponent, places, ExtendedMantissa.ofMantissaAndAccuracy]
  rfl

theorem roundWithAccuracy_eq {m : Nat} {e e₁ e₂ : Int} {em₁ em₂ : ExtendedMantissa}
    (first : shiftToTargetExponent Format.binary64 m e .exact = (em₁, e₁))
    (second : shiftToTargetExponent Format.binary64 em₁.roundedMantissa e₁ .exact = (em₂, e₂))
    (pos : 0 < em₂.mantissa) :
    roundWithAccuracy Format.binary64 .positive m e .exact = .finite .positive em₂.mantissa e₂ pos := by
  unfold roundWithAccuracy
  rw [first]
  dsimp only
  rw [second]
  exact dif_neg pos.ne'

/-- A number is written with all bits of a mantissa before it is rounded. -/
theorem ofNat_eq_round {n : Nat} (some : n ≠ 0) : UnpackedFloat.ofNat Format.binary64 n =
    roundWithAccuracy Format.binary64 .positive (n * 2 ^ (52 - n.log2)) (0 - ((52 - n.log2 : Nat) : Int)) .exact := by
  have whole : (0 : Int) < n := by omega
  have positive : compare (n : Int) 0 = .gt := by simpa [Int.compare_eq_gt] using whole
  have target := targetExponent_eq n 0 (by omega)
  have places : (0 - ((n.log2 : Int) + 0 - 52)).toNat = 52 - n.log2 := by omega
  simp only [UnpackedFloat.ofNat, UnpackedFloat.ofInt, UnpackedFloat.normalize, positive, Int.toNat_natCast,
    UnpackedFloat.round, decreaseExponent, target, places, Nat.shiftLeft_eq]

theorem ofNat_eq {n : Nat} (some : n ≠ 0) : ∃ pos,
    UnpackedFloat.ofNat Format.binary64 n = .finite .positive (significand n).1 (significand n).2 pos := by
  have first := shift_whole some
  obtain ⟨low, high⟩ := carried_bounds some
  rw [ofNat_eq_round some]
  unfold significand
  by_cases fits : carried n < 2 ^ 53
  · have second := shift_fits (e := (n.log2 : Int) - 52) low fits (by omega)
    rw [if_pos fits]
    exact ⟨by omega, roundWithAccuracy_eq first second _⟩
  · have carry : carried n = 2 ^ 53 := by omega
    have second := shift_carry (e := (n.log2 : Int) - 52) (by omega)
    have exponent : (n.log2 : Int) - 52 + 1 = n.log2 - 51 := by omega
    rw [← carry, exponent] at second
    rw [if_neg fits]
    exact ⟨Nat.two_pow_pos _, roundWithAccuracy_eq first second _⟩

@[simp]
theorem unpackSign_packComponents {spec : Format} {sign : Sign} {exponent : BitVec spec.exponentBits}
    {mantissa : BitVec spec.mantissaBitsWithoutImplicit} :
    unpackSign (packComponents spec sign exponent mantissa) = sign.toBitVec := by
  ext i inside
  have behind : spec.mantissaBitsWithoutImplicit + spec.exponentBits + i - spec.mantissaBitsWithoutImplicit =
      spec.exponentBits + i := by omega
  have outside : ¬ spec.mantissaBitsWithoutImplicit + spec.exponentBits + i < spec.mantissaBitsWithoutImplicit := by
    omega
  unfold unpackSign packComponents
  simp [BitVec.getLsbD_append, behind, outside, BitVec.getLsbD_eq_getElem inside]

theorem pack_normal {m biased : Nat} {e : Int} {pos : 0 < m} (low : 2 ^ 52 ≤ m) (high : m < 2 ^ 53)
    (value : (biased : Int) = e + 1075) (small : biased < 2046) :
    UnpackedFloat.pack Format.binary64 (.finite .positive m e pos) =
      packComponents Format.binary64 .positive (BitVec.ofNat 11 biased) (BitVec.ofNat 52 m) := by
  have bits := log2_of_bounds low high
  have bias : ((Format.binary64.exponentBias : Nat) : Int) = 1023 := by decide
  have exponent : (e + (Format.binary64.exponentBias : Int) + (52 : Nat)).toNat = biased := by omega
  have finite : ¬ 2 ^ 11 ≤ biased + 1 := by omega
  have whole : 52 + 1 = Format.binary64.mantissaBits := by decide
  unfold UnpackedFloat.pack
  dsimp only
  rw [exponent, if_neg finite, bits, if_pos whole]

theorem unpack_normal {m biased : Nat} {e : Int} {pos : 0 < m} (low : 2 ^ 52 ≤ m) (high : m < 2 ^ 53)
    (value : (biased : Int) = e + 1075) (some : 0 < biased) (small : biased < 2046) :
    UnpackedFloat.unpack Format.binary64
        (packComponents Format.binary64 .positive (BitVec.ofNat 11 biased) (BitVec.ofNat 52 m)) =
      .finite .positive m e pos := by
  have field : (BitVec.ofNat 11 biased).toNat = biased := by rw [BitVec.toNat_ofNat, Nat.mod_eq_of_lt (by omega)]
  have apart {word : BitVec 11} (other : biased ≠ word.toNat) : BitVec.ofNat 11 biased ≠ word :=
    fun same => other (by rw [← same, field])
  have finite : BitVec.ofNat 11 biased ≠ -1#11 := apart (show biased ≠ 2047 by omega)
  have normal : BitVec.ofNat 11 biased ≠ 0#11 := apart (show biased ≠ 0 by omega)
  have bias : ((Format.binary64.exponentBias : Nat) : Int) = 1023 := by decide
  have exponent : (biased : Int) - ((Format.binary64.exponentBias : Int) + (52 : Nat)) = e := by omega
  have mantissa : (1#1 ++ BitVec.ofNat 52 m).toNat = m := by
    rw [BitVec.toNat_append, BitVec.toNat_ofNat, BitVec.toNat_ofNat,
      ← Nat.shiftLeft_add_eq_or_of_lt (Nat.mod_lt m (Nat.two_pow_pos 52)), Nat.shiftLeft_eq]
    omega
  unfold UnpackedFloat.unpack
  dsimp only
  rw [if_neg (by rwa [unpackExponent_packComponents]), if_neg (by rwa [unpackExponent_packComponents]),
    UnpackedFloat.finite.injEq, unpackSign_packComponents, unpackExponent_packComponents,
    unpackMantissa_packComponents, field]
  exact ⟨rfl, mantissa, exponent⟩

theorem unpack_pack {m : Nat} {e : Int} (pos : 0 < m) (low : 2 ^ 52 ≤ m) (high : m < 2 ^ 53) (atLeast : -100 ≤ e)
    (atMost : e ≤ 100) : (Float.Model.pack (.finite .positive m e pos)).unpack = .finite .positive m e pos := by
  obtain ⟨biased, value⟩ : ∃ biased : Nat, (biased : Int) = e + 1075 := ⟨(e + 1075).toNat, by omega⟩
  show UnpackedFloat.unpack Format.binary64 (UnpackedFloat.pack Format.binary64 (.finite .positive m e pos)) = _
  rw [pack_normal low high value (by omega)]
  exact unpack_normal low high value (by omega) (by omega)

end Rounding

open Rounding in
theorem unpack_ticksFloat {ticks : Nat} (some : ticks ≠ 0) (small : ticks < wordCount) : ∃ pos,
    (ticksFloat ticks).toModel.unpack = .finite .positive (significand ticks).1 (significand ticks).2 pos := by
  obtain ⟨pos, value⟩ := ofNat_eq some
  obtain ⟨low, high, exponent⟩ := significand_bounds some
  have bits : ticks.log2 < 64 := (Nat.log2_lt some).mpr small
  have word : ticks.toUInt64.toNat = ticks := Nat.mod_eq_of_lt small
  refine ⟨pos, ?_⟩
  show (Float.Model.pack (UnpackedFloat.ofNat Format.binary64 ticks.toUInt64.toNat)).unpack = _
  rw [word, value]
  exact unpack_pack pos low high (by omega) (by omega)

namespace UnpackedFloat

variable {m m' : Nat} {e e' : Int} {pos : 0 < m} {pos' : 0 < m'}

theorem compare_positive : UnpackedFloat.compare (.finite .positive m e pos) (.finite .positive m' e' pos') =
    some ((compare e e').then (compare m m')) := rfl

theorem compare_negative : UnpackedFloat.compare (.finite .negative m e pos) (.finite .negative m' e' pos') =
    some ((compare e e').then (compare m m')).swap := rfl

theorem compare_swap (a b : UnpackedFloat) : (a.compare b).map Ordering.swap = b.compare a := by
  have exponents (m n : Int) : (compare m n).swap = compare n m := Std.OrientedCmp.eq_swap.symm
  have mantissas (m n : Nat) : (compare m n).swap = compare n m := Std.OrientedCmp.eq_swap.symm
  rcases a with ⟨⟨⟩⟩ | _ | ⟨⟨⟩⟩ | ⟨⟨⟩, _, _⟩ <;> rcases b with ⟨⟨⟩⟩ | _ | ⟨⟨⟩⟩ | ⟨⟨⟩, _, _⟩ <;>
    first
    | rfl
    | rw [compare_positive, compare_positive, Option.map_some, Ordering.swap_then, exponents, mantissas]
    | rw [compare_negative, compare_negative, Option.map_some, Ordering.swap_then, exponents, mantissas]

theorem compare_isSome {a b : UnpackedFloat} (number : a.isNaN = false) (number' : b.isNaN = false) :
    (a.compare b).isSome := by
  rcases a with ⟨⟨⟩⟩ | _ | ⟨⟨⟩⟩ | ⟨⟨⟩, _, _⟩ <;> rcases b with ⟨⟨⟩⟩ | _ | ⟨⟨⟩⟩ | ⟨⟨⟩, _, _⟩ <;>
    first | rfl | exact absurd number (by decide) | exact absurd number' (by decide)

end UnpackedFloat

open Rounding in
/-- Floating point may not tell two numbers of ticks apart, but it does not put them in the other order. -/
theorem ticksFloat_not_lt {a b : Nat} (ordered : a ≤ b) (small : b < wordCount) : ¬ ticksFloat b < ticksFloat a := by
  intro less
  have compared : ((ticksFloat b).toModel.unpack.compare (ticksFloat a).toModel.unpack == some .lt) = true :=
    of_decide_eq_true less
  by_cases none : a = 0
  · have zero : (ticksFloat 0).toModel.unpack = .zero .positive := rfl
    rw [none, zero] at compared
    by_cases none : b = 0
    · rw [none, zero] at compared
      cases compared
    · obtain ⟨pos, value⟩ := unpack_ticksFloat none small
      rw [value] at compared
      cases compared
  · obtain ⟨pos, value⟩ := unpack_ticksFloat none (by omega)
    obtain ⟨pos', value'⟩ := unpack_ticksFloat (show b ≠ 0 by omega) small
    rw [value, value', UnpackedFloat.compare_positive, beq_iff_eq, Option.some.injEq, Ordering.then_eq_lt,
      Int.compare_eq_lt, Int.compare_eq_eq, Nat.compare_eq_lt] at compared
    have order := significand_mono none ordered
    omega

/-- Of two numbers one is not greater than the other. -/
theorem float_le_of_not_gt {a b : Float} (number : a.isNaN = false) (number' : b.isNaN = false) (within : ¬ a > b) :
    a ≤ b := by
  obtain ⟨order, compared⟩ := Option.isSome_iff_exists.mp (UnpackedFloat.compare_isSome number number')
  have below : ((a.toModel.unpack.compare b.toModel.unpack).any Ordering.isLE) = true := by
    rw [compared]
    cases order with
    | lt => rfl
    | eq => rfl
    | gt =>
      have swapped := UnpackedFloat.compare_swap a.toModel.unpack b.toModel.unpack
      rw [compared] at swapped
      have above : ((b.toModel.unpack.compare a.toModel.unpack) == some .lt) = true := by
        rw [← swapped]
        rfl
      exact absurd (decide_eq_true above) within
  exact decide_eq_true below

theorem isNaN_toFloat (ticks : UInt64) : ticks.toFloat.isNaN = false := by
  have same : ticks.toFloat = ticksFloat ticks.toNat := by rw [ticksFloat, Nat.toUInt64, UInt64.ofNat_toNat]
  rw [same]
  by_cases none : ticks.toNat = 0
  · rw [none]
    decide
  · obtain ⟨pos, value⟩ := unpack_ticksFloat none ticks.toNat_lt
    show ((ticksFloat ticks.toNat).toModel.unpack).isNaN = false
    rw [value]
    rfl

end EventFormation
