import Gazetteer.Decimal.Shortest
import Mathlib

/-!
# Rounding and its limit

A float is the nearest one to a number, and a number past the largest float has an infinite one.
Rounding shifts the digits of a number until 53 are left, rounds them by what was shifted out, and
shifts once more if that carries. Where the limit lies follows from these two shifts.

* `isFinite_iff`: a float is finite when its bits hold a number.
* `roundWithAccuracy_of_lt`, `roundWithAccuracy_of_carry`: the two ways in which rounding ends.
* `isFinite_round_iff`: what rounds to a finite float.
* `Small`: how large a float can be, through products, quotients and a change of sign.
-/

set_option autoImplicit false

namespace Gazetteer.Decimal

open Float (Model)
open Float.Model (UnpackedFloat Format totalExponent)
open Float.Model.UnpackedFloat (Sign Accuracy ExtendedMantissa roundWithAccuracy
  shiftToTargetExponent)

theorem binary64_exponentBias : Format.binary64.exponentBias = 1023 := rfl

theorem binary64_targetExponent (t : Int) :
    Format.binary64.targetExponent t = max (t - 53) (-1074) := rfl

/-! ## Finite floats -/

/-- What the bits of a float hold as its exponent. -/
theorem exponent_toNat (x : Float) :
    (@UnpackedFloat.unpackExponent .binary64 x.toBits.toBitVec).toNat =
      ((x.toBits >>> 52) &&& 0x7FF).toNat := by
  simp [UnpackedFloat.unpackExponent, Nat.and_two_pow_sub_one_eq_mod _ 11]

/-- A float is finite unless all bits of its exponent are set. -/
theorem isFinite_iff_exponent (x : Float) : isFinite x = true ↔
    (@UnpackedFloat.unpackExponent .binary64 x.toBits.toBitVec).toNat ≠ 2047 := by
  rw [isFinite, bne_iff_ne, Ne, Ne, ← UInt64.toNat_inj, ← exponent_toNat]
  exact Iff.rfl

theorem isFinite_iff (x : Float) : isFinite x = true ↔ x.toModel.unpack.isFinite = true := by
  rw [isFinite_iff_exponent]
  show _ ↔ (UnpackedFloat.unpack .binary64 x.toBits.toBitVec).isFinite = true
  unfold UnpackedFloat.unpack
  dsimp only
  split
  · next ones =>
    refine iff_of_false (absurd (congrArg BitVec.toNat ones)) ?_
    split <;> exact Bool.false_ne_true
  · next ones =>
    refine iff_of_true (fun same => ones (BitVec.eq_of_toNat_eq same)) ?_
    split
    · split <;> rfl
    · rfl

theorem isFinite_pack_zero (s : Sign) : isFinite (.ofModel (.pack (.zero s))) = true := by
  cases s <;> decide

variable {s : Sign} {m : Nat} {e : Int} {acc : Accuracy}

/-- The exponent of a number that is packed. -/
theorem unpackExponent_pack (h : 0 < m) :
    (UnpackedFloat.unpackExponent (UnpackedFloat.pack .binary64 (.finite s m e h))).toNat =
      if 971 < e then 2047 else if m.log2 = 52 then (e + 1075).toNat else 0 := by
  have mantissa : Format.binary64.mantissaBits = 53 := rfl
  unfold UnpackedFloat.pack
  dsimp only
  rw [binary64_exponentBias]
  split
  · rw [UnpackedFloat.packedInfinity, UnpackedFloat.unpackExponent_packComponents,
      if_pos (by omega)]
    rfl
  have low : ¬971 < e := by omega
  rw [if_neg low]
  split
  · rw [UnpackedFloat.unpackExponent_packComponents, BitVec.toNat_ofNat, if_pos (by omega)]
    omega
  · rw [UnpackedFloat.unpackExponent_packComponents, if_neg (by omega)]
    rfl

/-- A number that is packed becomes infinite when its exponent is too large. -/
theorem isFinite_pack_finite (h : 0 < m) :
    isFinite (.ofModel (.pack (.finite s m e h))) = true ↔ e ≤ 971 := by
  rw [isFinite_iff_exponent]
  show (UnpackedFloat.unpackExponent (UnpackedFloat.pack .binary64 (.finite s m e h))).toNat ≠ _ ↔ _
  rw [unpackExponent_pack]
  split_ifs <;> omega

/-! ## Shifting and rounding -/

theorem shift_succ (em : ExtendedMantissa) (k : Nat) :
    em >>> (k + 1) = (em >>> k).shiftRightOne := rfl

theorem shift_mantissa (em : ExtendedMantissa) (k : Nat) :
    (em >>> k).mantissa = em.mantissa / 2 ^ k := by
  induction k with
  | zero => exact (Nat.div_one _).symm
  | succ k ih =>
    rw [shift_succ, ExtendedMantissa.shiftRightOne, ih, Nat.div_div_eq_div_mul, ← Nat.pow_succ]

/-- The last digit that was shifted out. -/
theorem shift_roundBit (em : ExtendedMantissa) (k : Nat) :
    (em >>> (k + 1)).roundBit = (em.mantissa / 2 ^ k % 2 != 0) := by
  rw [shift_succ, ExtendedMantissa.shiftRightOne, shift_mantissa]

theorem ofMantissaAndAccuracy_mantissa (m : Nat) (acc : Accuracy) :
    (ExtendedMantissa.ofMantissaAndAccuracy m acc).mantissa = m := by
  cases acc with
  | exact => rfl
  | inexact o => cases o <;> rfl

theorem roundedMantissa_mem (em : ExtendedMantissa) :
    em.mantissa ≤ em.roundedMantissa ∧ em.roundedMantissa ≤ em.mantissa + 1 := by
  obtain ⟨m, half, rest⟩ := em
  cases half <;> cases rest <;>
    simp only [ExtendedMantissa.roundedMantissa, ExtendedMantissa.accuracy,
      Accuracy.roundToNearestEven] <;>
    omega

/-- An odd number is rounded up whenever at least one half was shifted out. -/
theorem roundedMantissa_of_odd {em : ExtendedMantissa} (odd : em.mantissa % 2 = 1) :
    em.roundedMantissa = em.mantissa + em.roundBit.toNat := by
  obtain ⟨m, half, rest⟩ := em
  replace odd : m % 2 = 1 := odd
  cases half <;> cases rest <;>
    simp [ExtendedMantissa.roundedMantissa, ExtendedMantissa.accuracy,
      Accuracy.roundToNearestEven, odd]

/-- How far the digits of a number are shifted. -/
def excess (m : Nat) (e : Int) : Nat :=
  (Format.binary64.targetExponent (totalExponent m e) - e).toNat

/-- The digits after the first shift. -/
def cut (m : Nat) (e : Int) (acc : Accuracy) : ExtendedMantissa :=
  ExtendedMantissa.ofMantissaAndAccuracy m acc >>> excess m e

theorem shiftToTargetExponent_eq (m : Nat) (e : Int) (acc : Accuracy) :
    shiftToTargetExponent .binary64 m e acc = (cut m e acc, e + excess m e) := rfl

theorem cut_mantissa : (cut m e acc).mantissa = m / 2 ^ excess m e := by
  rw [cut, shift_mantissa, ofMantissaAndAccuracy_mantissa]

/-- At most 53 digits are left. -/
theorem cut_lt : (cut m e acc).mantissa < 2 ^ 53 := by
  rw [cut_mantissa, Nat.div_lt_iff_lt_mul (Nat.two_pow_pos _), ← Nat.pow_add]
  refine lt_of_lt_of_le Nat.lt_log2_self (Nat.pow_le_pow_right (by decide) ?_)
  rw [excess, binary64_targetExponent, totalExponent]
  omega

theorem rounded_le (m : Nat) (e : Int) (acc : Accuracy) : (cut m e acc).roundedMantissa ≤ 2 ^ 53 :=
  (roundedMantissa_mem _).2.trans cut_lt

/-- When no fewer than 53 digits are left, the first of them is a one. -/
theorem le_rounded (total : totalExponent m e = e + excess m e + 53) (h : m ≠ 0) :
    2 ^ 52 ≤ (cut m e acc).roundedMantissa := by
  have digits : m.log2 = 52 + excess m e := by
    rw [totalExponent] at total
    omega
  refine le_trans ?_ (roundedMantissa_mem _).1
  rw [cut_mantissa, Nat.le_div_iff_mul_le (Nat.two_pow_pos _), ← Nat.pow_add, ← digits]
  exact Nat.log2_self_le h

theorem log2_le {k : Nat} (h : m < 2 ^ (k + 1)) : m.log2 ≤ k := by
  by_cases zero : m = 0
  · simp [zero]
  · exact Nat.le_of_lt_succ ((Nat.log2_lt zero).2 h)

theorem le_add_excess (m : Nat) (e : Int) : -1074 ≤ e + excess m e := by
  rw [excess, binary64_targetExponent]
  omega

theorem excess_of_lt (small : m < 2 ^ 53) (least : -1074 ≤ e) : excess m e = 0 := by
  have few : m.log2 ≤ 52 := log2_le small
  rw [excess, binary64_targetExponent, totalExponent]
  omega

theorem excess_of_carry (least : -1074 ≤ e) : excess (2 ^ 53) e = 1 := by
  rw [excess, binary64_targetExponent, totalExponent, Nat.log2_two_pow]
  omega

/-- Rounding without a carry. -/
theorem roundWithAccuracy_of_lt (s : Sign) (small : (cut m e acc).roundedMantissa < 2 ^ 53) :
    roundWithAccuracy .binary64 s m e acc =
      if h : (cut m e acc).roundedMantissa = 0 then .zero s
      else .finite s (cut m e acc).roundedMantissa (e + excess m e) (Nat.pos_of_ne_zero h) := by
  have still := excess_of_lt small (le_add_excess m e)
  rw [roundWithAccuracy, shiftToTargetExponent_eq]
  dsimp only
  simp only [shiftToTargetExponent_eq, cut_mantissa, still, Nat.pow_zero, Nat.div_one,
    Int.natCast_zero, Int.add_zero]

/-- Rounding with a carry. -/
theorem roundWithAccuracy_of_carry (s : Sign) (carry : (cut m e acc).roundedMantissa = 2 ^ 53) :
    roundWithAccuracy .binary64 s m e acc =
      .finite s (2 ^ 52) (e + excess m e + 1) (Nat.two_pow_pos 52) := by
  have once := excess_of_carry (le_add_excess m e)
  rw [roundWithAccuracy, shiftToTargetExponent_eq]
  dsimp only
  simp only [carry, shiftToTargetExponent_eq, cut_mantissa, once]
  rfl

/-! ## The limit -/

/-- There is a carry when all digits that are left and the last one that was shifted out are
ones. -/
theorem carry_iff {k : Nat} (shifted : excess m e = k + 1) :
    (cut m e acc).roundedMantissa = 2 ^ 53 ↔ 2 ^ 54 - 1 ≤ m / 2 ^ k := by
  have half : (cut m e acc).roundBit = (m / 2 ^ k % 2 != 0) := by
    rw [cut, shifted, shift_roundBit, ofMantissaAndAccuracy_mantissa]
  have kept : (cut m e acc).mantissa = m / 2 ^ k / 2 := by
    rw [cut_mantissa, shifted, Nat.pow_succ, Nat.div_div_eq_div_mul]
  have small : (cut m e acc).mantissa < 2 ^ 53 := cut_lt
  constructor
  · intro carry
    have ones : (cut m e acc).mantissa = 2 ^ 53 - 1 := by
      have := (roundedMantissa_mem (cut m e acc)).2
      omega
    have odd : m / 2 ^ k % 2 ≠ 0 := by
      intro even
      rw [roundedMantissa_of_odd (by omega), half, even] at carry
      exact absurd carry (by simpa using small.ne)
    omega
  · intro ones
    have odd : m / 2 ^ k % 2 = 1 := by omega
    rw [roundedMantissa_of_odd (by omega), half, odd]
    show _ + 1 = _
    omega

/-- The least number that is too large for a float, half a step past the largest one, in units of
`2 ^ (970 - k)`. -/
@[irreducible] def limit (k : Nat) : Nat := (2 ^ 54 - 1) * 2 ^ k

theorem limit_pos (k : Nat) : 0 < limit k := by
  rw [limit]
  exact Nat.mul_pos (by decide) (Nat.two_pow_pos k)

theorem limit_add (k l : Nat) : limit (k + l) = limit k * 2 ^ l := by
  rw [limit, limit, Nat.pow_add, Nat.mul_assoc]

theorem le_limit {k n : Nat} (h : n ≤ 53 + k) : 2 ^ n ≤ limit k := by
  refine (Nat.pow_le_pow_right (by decide) h).trans ?_
  rw [limit, Nat.pow_add]
  exact Nat.mul_le_mul_right _ (by decide)

theorem limit_le {k n : Nat} (h : 54 + k ≤ n) : limit k ≤ 2 ^ n := by
  refine le_trans ?_ (Nat.pow_le_pow_right (by decide) h)
  rw [limit, Nat.pow_add]
  exact Nat.mul_le_mul_right _ (by decide)

theorem isFinite_round_of_le (s : Sign) (low : e + excess m e ≤ 970) :
    isFinite (.ofModel (.pack (roundWithAccuracy .binary64 s m e acc))) = true := by
  rcases lt_or_eq_of_le (rounded_le m e acc) with small | carry
  · rw [roundWithAccuracy_of_lt s small]
    split
    · exact isFinite_pack_zero s
    · exact (isFinite_pack_finite _).2 (by omega)
  · rw [roundWithAccuracy_of_carry s carry]
    exact (isFinite_pack_finite _).2 (by omega)

/-- With a large exponent after the first shift, a carry decides. -/
theorem isFinite_round_of_lt (s : Sign) (high : 970 < e + excess m e)
    (total : totalExponent m e = e + excess m e + 53) (h : m ≠ 0) :
    isFinite (.ofModel (.pack (roundWithAccuracy .binary64 s m e acc))) = true ↔
      e + excess m e = 971 ∧ (cut m e acc).roundedMantissa ≠ 2 ^ 53 := by
  have positive : 2 ^ 52 ≤ (cut m e acc).roundedMantissa := le_rounded total h
  rcases lt_or_eq_of_le (rounded_le m e acc) with small | carry
  · rw [roundWithAccuracy_of_lt s small, dif_neg (by omega), isFinite_pack_finite]
    omega
  · rw [roundWithAccuracy_of_carry s carry, isFinite_pack_finite]
    omega

/-- A number rounds to a finite float if it is below the limit, however much is missing of its last
digit. -/
theorem isFinite_round_iff (s : Sign) (m : Nat) (e : Int) (acc : Accuracy) (room : e ≤ 970) :
    isFinite (.ofModel (.pack (roundWithAccuracy .binary64 s m e acc))) = true ↔
      m < limit (970 - e).toNat := by
  have far : e + excess m e = max e (max (totalExponent m e - 53) (-1074)) := by
    rw [excess, binary64_targetExponent]
    omega
  -- below `2 ^ 1023` no carry can matter, from there to `2 ^ 1024` it decides, and above it is late
  by_cases low : totalExponent m e < 1024
  · refine iff_of_true (isFinite_round_of_le s (by omega)) ?_
    rw [totalExponent] at low
    calc m < 2 ^ (m.log2 + 1) := Nat.lt_log2_self
      _ ≤ limit (970 - e).toNat := le_limit (by omega)
  have nonzero : m ≠ 0 := by
    rintro rfl
    have : totalExponent 0 e = 1 + e := rfl
    omega
  rw [isFinite_round_of_lt s (by omega) (by omega) nonzero]
  by_cases top : totalExponent m e = 1024
  · have shifted : excess m e = (970 - e).toNat + 1 := by omega
    rw [Ne, carry_iff shifted, not_le, Nat.div_lt_iff_lt_mul (Nat.two_pow_pos _), limit]
    exact and_iff_right (by omega)
  · refine iff_of_false (fun no => top (by omega)) (not_lt.2 ?_)
    rw [totalExponent] at low top
    calc limit (970 - e).toNat ≤ 2 ^ m.log2 := limit_le (by omega)
      _ ≤ m := Nat.log2_self_le nonzero

/-! ## Small floats -/

/-- Zero, or a finite number of 53 digits at most with an exponent of at most `b`. -/
inductive Within (b : Int) : UnpackedFloat → Prop
  | zero (s : Sign) : Within b (.zero s)
  | finite {s : Sign} {m : Nat} {e : Int} (pos : 0 < m) (few : m < 2 ^ 53) (least : -1074 ≤ e)
      (most : e ≤ b) : Within b (.finite s m e pos)

/-- Finite, and one at least in size. -/
inductive AtLeastOne : UnpackedFloat → Prop
  | finite {s : Sign} {m : Nat} {e : Int} (pos : 0 < m) (large : 1 ≤ totalExponent m e) :
      AtLeastOne (.finite s m e pos)

/-- The float is zero or has an exponent of at most `b`. -/
def Small (b : Int) (x : Float) : Prop := Within b x.toModel.unpack

theorem within_finite_iff {b : Int} {pos : 0 < m} :
    Within b (.finite s m e pos) ↔ m < 2 ^ 53 ∧ -1074 ≤ e ∧ e ≤ b := by
  constructor
  · rintro ⟨⟩
    exact ⟨‹_›, ‹_›, ‹_›⟩
  · rintro ⟨few, least, most⟩
    exact .finite pos few least most

theorem atLeastOne_finite_iff {pos : 0 < m} :
    AtLeastOne (.finite s m e pos) ↔ 1 ≤ totalExponent m e := by
  constructor
  · rintro ⟨⟩
    assumption
  · exact .finite pos

instance (b : Int) : DecidablePred (Within b)
  | .zero s => .isTrue (.zero s)
  | .finite _ _ _ _ => decidable_of_iff' _ within_finite_iff
  | .infinity _ => .isFalse nofun
  | .notANumber => .isFalse nofun

instance : DecidablePred AtLeastOne
  | .zero _ => .isFalse nofun
  | .finite _ _ _ _ => decidable_of_iff' _ atLeastOne_finite_iff
  | .infinity _ => .isFalse nofun
  | .notANumber => .isFalse nofun

instance (b : Int) (x : Float) : Decidable (Small b x) := inferInstanceAs (Decidable (Within b _))

variable {a b : Int} {u v : UnpackedFloat} {x y : Float}

theorem Within.mono (h : Within a u) (le : a ≤ b) : Within b u := by
  cases h with
  | zero s => exact .zero s
  | finite pos few least most => exact .finite pos few least (most.trans le)

theorem Small.isFinite (h : Small b x) : isFinite x = true := by
  rw [isFinite_iff]
  rw [Small] at h
  generalize x.toModel.unpack = u at h
  cases h <;> rfl

theorem within_unpack (bits : BitVec Format.binary64.numBits) (low : -1074 ≤ b) (high : b ≤ 971)
    (h : (UnpackedFloat.unpackExponent bits).toNat ≤ b + 1075) :
    Within b (UnpackedFloat.unpack .binary64 bits) := by
  unfold UnpackedFloat.unpack
  dsimp only
  rw [binary64_exponentBias]
  split
  · next ones =>
    rw [ones] at h
    change (2047 : Int) ≤ _ at h
    omega
  split
  · next least =>
    split
    · exact .zero _
    · refine .finite _ ((BitVec.isLt _).trans (by decide)) ?_ ?_ <;> rw [least]
      · decide
      · exact low
  · next more =>
    have positive : (UnpackedFloat.unpackExponent bits).toNat ≠ 0 := by
      intro zero
      exact more (BitVec.eq_of_toNat_eq zero)
    refine .finite _ (BitVec.isLt _) ?_ ?_ <;> dsimp <;> omega

theorem small_pack (h : Within b u) (low : -1074 ≤ b) (high : b ≤ 971) :
    Small b (.ofModel (.pack u)) := by
  refine within_unpack _ low high ?_
  show ((UnpackedFloat.unpackExponent (UnpackedFloat.pack .binary64 u)).toNat : Int) ≤ b + 1075
  cases h with
  | zero s =>
    rw [UnpackedFloat.pack, UnpackedFloat.packedZero, UnpackedFloat.unpackExponent_packComponents]
    show (0 : Int) ≤ _
    omega
  | finite pos _ least most =>
    rw [unpackExponent_pack]
    split_ifs <;> omega

theorem within_round (s : Sign) (acc : Accuracy) (low : -1074 ≤ b) (exponent : e ≤ b)
    (total : totalExponent m e ≤ b + 53) :
    Within (b + 1) (roundWithAccuracy .binary64 s m e acc) := by
  have least := le_add_excess m e
  have most : e + excess m e ≤ b := by
    rw [excess, binary64_targetExponent]
    omega
  rcases lt_or_eq_of_le (rounded_le m e acc) with small | carry
  · rw [roundWithAccuracy_of_lt s small]
    split
    · exact .zero s
    · exact .finite _ small least (by omega)
  · rw [roundWithAccuracy_of_carry s carry]
    exact .finite _ (by decide) (by omega) (by omega)

theorem within_mul (hu : Within a u) (hv : Within b v) (low : -1074 ≤ a + b + 53) :
    Within (a + b + 54) (UnpackedFloat.mul .binary64 u v) := by
  cases hu with
  | zero s => cases hv <;> exact .zero _
  | @finite s m e pos few _ most =>
    cases hv with
    | zero s' => exact .zero _
    | @finite s' m' e' pos' few' _ most' =>
      have digits : (m * m').log2 ≤ 105 := by
        refine log2_le ?_
        calc m * m' < 2 ^ 53 * 2 ^ 53 := Nat.mul_lt_mul'' few few'
          _ = 2 ^ 106 := (Nat.pow_add _ _ _).symm
      refine Within.mono (within_round _ _ low (by omega) ?_) (by omega)
      rw [totalExponent]
      omega

theorem shiftLeft_lt (m k : Nat) : m <<< k < 2 ^ (m.log2 + k + 1) := by
  rw [Nat.shiftLeft_eq, Nat.add_right_comm, Nat.pow_add]
  exact Nat.mul_lt_mul_of_pos_right Nat.lt_log2_self (Nat.two_pow_pos k)

/-- A quotient has one digit more than the difference of the digits at most. -/
theorem log2_div_le (m k : Nat) {n : Nat} (pos : 0 < n) :
    ((m <<< k) / n).log2 ≤ m.log2 + k - n.log2 := by
  refine log2_le ?_
  rw [Nat.div_lt_iff_lt_mul pos]
  calc m <<< k < 2 ^ (m.log2 + k + 1) := shiftLeft_lt m k
    _ ≤ 2 ^ (m.log2 + k - n.log2 + 1 + n.log2) := Nat.pow_le_pow_right (by decide) (by omega)
    _ = 2 ^ (m.log2 + k - n.log2 + 1) * 2 ^ n.log2 := Nat.pow_add _ _ _
    _ ≤ 2 ^ (m.log2 + k - n.log2 + 1) * n := Nat.mul_le_mul_left _ (Nat.log2_self_le pos.ne')

theorem within_div (hu : Within b u) (hv : AtLeastOne v) (low : -1074 ≤ b) :
    Within (b + 1) (UnpackedFloat.div .binary64 u v) := by
  cases hv with
  | @finite s' n e' pos' large =>
    cases hu with
    | zero s => exact .zero _
    | @finite s m e pos few _ most =>
      have digits : m.log2 ≤ 52 := log2_le few
      rw [totalExponent] at large
      rw [UnpackedFloat.div, UnpackedFloat.divCore, binary64_targetExponent, totalExponent,
        totalExponent]
      dsimp only
      refine within_round _ _ low (by omega) ?_
      rw [totalExponent]
      generalize shift : (e - e' - min (e - e')
        (max (m.log2 + 1 + e - (n.log2 + 1 + e') - 53) (-1074))).toNat = k
      have quotient := log2_div_le m k pos'
      omega

theorem small_mul (hx : Small a x) (hy : Small b y) (low : -1074 ≤ a + b + 53)
    (high : a + b + 54 ≤ 971) : Small (a + b + 54) (x * y) :=
  small_pack (within_mul hx hy low) (by omega) high

theorem small_div (hx : Small b x) (hy : AtLeastOne y.toModel.unpack) (low : -1074 ≤ b)
    (high : b + 1 ≤ 971) : Small (b + 1) (x / y) :=
  small_pack (within_div hx hy low) (by omega) high

/-- Whole numbers of one word. -/
theorem small_word (n : Nat) : Small 12 n.toUInt64.toFloat := by
  refine small_pack ?_ (by decide) (by decide)
  show Within 12 (UnpackedFloat.normalize .binary64 (n.toUInt64.toNat : Int) 0 .positive)
  have word : n.toUInt64.toNat < 2 ^ 64 := UInt64.toNat_lt _
  generalize n.toUInt64.toNat = k at word
  unfold UnpackedFloat.normalize
  split
  · next negative =>
    rw [Int.compare_eq_lt] at negative
    omega
  · exact .zero _
  · have bits : k.log2 ≤ 63 := log2_le word
    rw [UnpackedFloat.round, UnpackedFloat.decreaseExponent, binary64_targetExponent, totalExponent]
    dsimp only
    refine within_round (b := 11) _ _ (by decide) (by omega) ?_
    rw [totalExponent, Int.toNat_natCast]
    have shifted := log2_le (shiftLeft_lt k (0 - max (k.log2 + 1 + 0 - 53 : Int) (-1074)).toNat)
    show _ ≤ (64 : Int)
    omega

theorem small_neg (hx : Small b x) (low : -1074 ≤ b) (high : b ≤ 971) : Small b (-x) := by
  refine small_pack (u := x.toModel.unpack.neg) ?_ low high
  rw [Small] at hx
  generalize x.toModel.unpack = u at hx
  cases hx with
  | zero s => exact .zero (-s)
  | finite pos few least most => exact .finite pos few least most

theorem small_of_isFinite (h : isFinite x = true) : Small 971 x := by
  refine within_unpack _ (by decide) (by decide) ?_
  rw [isFinite_iff_exponent] at h
  have bits := (@UnpackedFloat.unpackExponent .binary64 x.toBits.toBitVec).isLt
  change _ < 2048 at bits
  show ((@UnpackedFloat.unpackExponent .binary64 x.toBits.toBitVec).toNat : Int) ≤ _
  omega

theorem isFinite_neg_iff (x : Float) : isFinite (-x) = true ↔ isFinite x = true := by
  constructor
  · intro h
    rw [isFinite_iff]
    replace h : isFinite (.ofModel (.pack x.toModel.unpack.neg)) = true := h
    cases unpacked : x.toModel.unpack with
    | zero s => rfl
    | finite s m e pos => rfl
    | infinity s =>
      rw [unpacked] at h
      cases s <;> exact absurd h (by decide)
    | notANumber =>
      rw [unpacked] at h
      exact absurd h (by decide)
  · exact fun h => (small_neg (small_of_isFinite h) (by decide) (by decide)).isFinite

/-! ## Floats of one at least -/

theorem le_append_one {n : Nat} (v : BitVec n) : 2 ^ n ≤ (1#1 ++ v).toNat := by
  rw [BitVec.toNat_append, BitVec.toNat_ofNat, Nat.shiftLeft_eq]
  exact le_trans (by simp) Nat.left_le_or

/-- A finite float is one at least when its bits hold the exponent of one or a larger one. -/
theorem atLeastOne_of_exponent (finite : isFinite x = true)
    (large : 1023 ≤ (@UnpackedFloat.unpackExponent .binary64 x.toBits.toBitVec).toNat) :
    AtLeastOne x.toModel.unpack := by
  rw [isFinite_iff_exponent] at finite
  show AtLeastOne (UnpackedFloat.unpack .binary64 x.toBits.toBitVec)
  unfold UnpackedFloat.unpack
  dsimp only
  rw [binary64_exponentBias]
  split
  · next ones => exact absurd (congrArg BitVec.toNat ones) finite
  split
  · next least =>
    rw [least] at large
    exact absurd large (by decide)
  · refine .finite _ ?_
    have above := le_append_one (@UnpackedFloat.unpackMantissa .binary64 x.toBits.toBitVec)
    have first := (Nat.le_log2 ((Nat.two_pow_pos _).trans_le above).ne').2 above
    rw [totalExponent]
    dsimp at first ⊢
    omega

/-- A number of 53 digits in front of the point is one at least when it is packed. -/
theorem atLeastOne_pack {pos : 0 < m} (normal : 2 ^ 52 ≤ m) (few : m < 2 ^ 53) (one : -52 ≤ e)
    (fits : e ≤ 971) : AtLeastOne (Model.pack (.finite s m e pos)).unpack := by
  have digits : m.log2 = 52 := le_antisymm (log2_le few) ((Nat.le_log2 pos.ne').2 normal)
  refine atLeastOne_of_exponent (x := .ofModel (.pack (.finite s m e pos)))
    ((isFinite_pack_finite pos).2 fits) ?_
  show 1023 ≤ (UnpackedFloat.unpackExponent (UnpackedFloat.pack .binary64 _)).toNat
  rw [unpackExponent_pack, if_neg (by omega), if_pos digits]
  omega

/-- A number of at least one rounds to at least one. -/
theorem atLeastOne_round (s : Sign) (acc : Accuracy) (one : 1 ≤ totalExponent m e)
    (total : totalExponent m e = e + excess m e + 53) (h : m ≠ 0)
    (finite : isFinite (.ofModel (.pack (roundWithAccuracy .binary64 s m e acc))) = true) :
    AtLeastOne (Model.pack (roundWithAccuracy .binary64 s m e acc)).unpack := by
  have normal : 2 ^ 52 ≤ (cut m e acc).roundedMantissa := le_rounded total h
  rcases lt_or_eq_of_le (rounded_le m e acc) with small | carry
  · rw [roundWithAccuracy_of_lt s small, dif_neg (by omega)] at finite ⊢
    exact atLeastOne_pack normal small (by omega) ((isFinite_pack_finite _).1 finite)
  · rw [roundWithAccuracy_of_carry s carry] at finite ⊢
    exact atLeastOne_pack le_rfl (by decide) (by omega) ((isFinite_pack_finite _).1 finite)

end Gazetteer.Decimal
