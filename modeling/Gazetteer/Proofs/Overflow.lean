import Gazetteer.Proofs.Rounding

/-!
# Which numbers have a finite float

A decimal number has a finite float up to half a step past the largest one. What people write as a
number may be larger, or the name of a value that has no digits.

* `Below`: a decimal number is below the limit.
* `isFinite_nearest_iff`: these are the numbers with a finite float.
* `Moderate`: a text in free form writes such a number.
* `isFinite_read_iff`: these are the texts that read as a finite float.
-/

set_option autoImplicit false

namespace Gazetteer.Decimal

open Float (Model)
open Float.Model (UnpackedFloat Format totalExponent)
open Float.Model.UnpackedFloat (Sign Accuracy)

variable {m : Nat} {e : Int}

/-! ## Decimal numbers -/

/-- The number `m * 10 ^ e` is below the limit. -/
def Below (m : Nat) (e : Int) : Prop := m * 10 ^ e.toNat < limit 970 * 10 ^ (-e).toNat

theorem below_iff_of_nonneg (h : 0 ≤ e) : Below m e ↔ m * 10 ^ e.toNat < limit 970 := by
  rw [Below, Int.toNat_of_nonpos (Int.neg_nonpos_of_nonneg h), Nat.pow_zero, Nat.mul_one]

theorem below_iff_of_nonpos (h : e ≤ 0) : Below m e ↔ m < limit 970 * 10 ^ (-e).toNat := by
  rw [Below, Int.toNat_of_nonpos h, Nat.pow_zero, Nat.mul_one]

theorem below_zero (e : Int) : Below 0 e := by
  rw [Below, Nat.zero_mul]
  exact Nat.mul_pos (limit_pos 970) (Nat.pow_pos (by decide))

theorem limit_le_ten {k n d : Nat} (h : 54 + k ≤ 205 * n) (digits : 62 * n ≤ d) :
    limit k ≤ 10 ^ d :=
  calc limit k ≤ 2 ^ (205 * n) := limit_le h
    _ = (2 ^ 205) ^ n := Nat.pow_mul _ _ _
    _ ≤ (10 ^ 62) ^ n := Nat.pow_le_pow_left (by decide) n
    _ = 10 ^ (62 * n) := (Nat.pow_mul _ _ _).symm
    _ ≤ 10 ^ d := Nat.pow_le_pow_right (by decide) digits

/-- With 311 digits in front of the point a number is too large. -/
theorem not_below {k : Nat} (digits : 10 ^ k ≤ m) (high : 310 ≤ k + e) : ¬Below m e := by
  obtain ⟨d, places⟩ : ∃ d, d + (-e).toNat = k + e.toNat := ⟨k + e.toNat - (-e).toNat, by omega⟩
  rw [Below, not_lt]
  calc limit 970 * 10 ^ (-e).toNat ≤ 10 ^ d * 10 ^ (-e).toNat :=
        Nat.mul_le_mul_right _ (limit_le_ten (n := 5) (by decide) (by omega))
    _ = 10 ^ k * 10 ^ e.toNat := by rw [← Nat.pow_add, ← Nat.pow_add, places]
    _ ≤ m * 10 ^ e.toNat := Nat.mul_le_mul_right _ digits

/-- Without digits in front of the point a number is not too large. -/
theorem below_of_lt {k : Nat} (digits : m < 10 ^ k) (low : k + e ≤ 0) : Below m e := by
  rw [below_iff_of_nonpos (by omega)]
  calc m < 10 ^ k := digits
    _ ≤ 10 ^ (-e).toNat := Nat.pow_le_pow_right (by decide) (by omega)
    _ ≤ limit 970 * 10 ^ (-e).toNat := Nat.le_mul_of_pos_left _ (limit_pos 970)

theorem below_of_small (few : m < 2 ^ 53) (low : e ≤ 22) : Below m e :=
  calc m * 10 ^ e.toNat ≤ m * 10 ^ 22 :=
        Nat.mul_le_mul_left _ (Nat.pow_le_pow_right (by decide) (by omega))
    _ < 2 ^ 53 * 2 ^ 74 := Nat.mul_lt_mul_of_lt_of_le few (by decide) (by decide)
    _ = 2 ^ 127 := (Nat.pow_add _ _ _).symm
    _ ≤ limit 970 := le_limit (by decide)
    _ ≤ limit 970 * 10 ^ (-e).toNat := Nat.le_mul_of_pos_right _ (Nat.pow_pos (by decide))

/-! ## Their floats -/

theorem isFinite_pack_mul (s : Sign) (m k : Nat) (acc : Accuracy) :
    isFinite (.ofModel (.pack (UnpackedFloat.roundWithAccuracy .binary64 s (m <<< 53 * 10 ^ k)
      (-53 + 0) acc))) = true ↔ m * 10 ^ k < limit 970 := by
  have up : (970 - (-53 + 0) : Int).toNat = 970 + 53 := rfl
  rw [isFinite_round_iff _ _ _ _ (by decide), up, limit_add, Nat.shiftLeft_eq, Nat.mul_right_comm]
  exact Nat.mul_lt_mul_right (Nat.two_pow_pos 53)

theorem isFinite_pack_div (s : Sign) (m k : Nat) {t : Int} (ht : t ≤ 0) (acc : Accuracy) :
    isFinite (.ofModel (.pack (UnpackedFloat.roundWithAccuracy .binary64 s
      ((m <<< (0 - t).toNat) / 10 ^ k) t acc))) = true ↔ m < limit 970 * 10 ^ k := by
  have up : (970 - t).toNat = 970 + (0 - t).toNat := by omega
  rw [isFinite_round_iff _ _ _ _ (by omega), up, limit_add, Nat.shiftLeft_eq,
    Nat.div_lt_iff_lt_mul (Nat.pow_pos (by decide)), Nat.mul_right_comm]
  exact Nat.mul_lt_mul_right (Nat.two_pow_pos _)

/-- The float of a number that is multiplied out. -/
theorem isFinite_ofScientific_model (m : Nat) (e : Int) :
    isFinite (.ofModel (.ofScientific m e)) = true ↔ Below m e := by
  have bits : (2 : Int) ^ Format.binary64.exponentBits = 2048 := rfl
  rw [Model.ofScientific, UnpackedFloat.ofScientific, bits]
  split
  · next zero => exact iff_of_true (isFinite_pack_zero _) (zero ▸ below_zero e)
  next nonzero =>
  split
  · refine iff_of_false (by decide) (not_below (k := 0) (Nat.pos_of_ne_zero nonzero) ?_)
    omega
  split
  · refine iff_of_true (isFinite_pack_zero _) (below_of_lt (k := m.log2 + 1) ?_ ?_)
    · exact Nat.lt_log2_self.trans_le (Nat.pow_le_pow_left (by decide) _)
    · omega
  split
  · next nonneg =>
    rw [below_iff_of_nonneg nonneg]
    exact isFinite_pack_mul _ m e.toNat _
  · next negative =>
    rw [below_iff_of_nonpos (by omega)]
    exact isFinite_pack_div _ m (-e).toNat (by omega) _

/-- A number with a small power of ten that is not negative is multiplied out in whole numbers. -/
theorem ofScientific_of_nonneg (nonzero : m ≠ 0) {k : Nat} (small : k ≤ 2048) :
    Model.ofScientific m k = .pack (UnpackedFloat.roundWithAccuracy .binary64 .positive
      (m <<< 53 * 10 ^ k) (-53 + 0) .exact) := by
  have bits : (2 : Int) ^ Format.binary64.exponentBits = 2048 := rfl
  rw [Model.ofScientific, UnpackedFloat.ofScientific, bits, dif_neg nonzero, if_neg (by omega),
    if_neg (by omega), if_pos (by omega)]
  rfl

theorem small_powers : ∀ p ∈ Float.exactlyRepresentablePowersOfTen,
    Small 21 p ∧ AtLeastOne p.toModel.unpack := by
  decide +kernel

/-- A number of 53 digits with a small power of ten, which is applied in float arithmetic. -/
theorem small_ofScientific {k : Nat} (negative : Bool) (h : m < 2 ^ 53 ∧ k ≤ 22) :
    Small 87 (Float.ofScientific m negative k) := by
  have inside : k < Float.exactlyRepresentablePowersOfTen.size := Nat.lt_succ_of_le h.2
  obtain ⟨small, one⟩ := small_powers _ (Array.getElem_mem inside)
  rw [Float.ofScientific, dif_pos h]
  dsimp only
  split
  · exact Within.mono (small_div (small_word m) one (by decide) (by decide)) (by decide)
  · exact small_mul (small_word m) small (by decide) (by decide)

theorem isFinite_ofScientific_iff (m : Nat) (negative : Bool) (k : Nat) :
    isFinite (Float.ofScientific m negative k) = true ↔
      Below m (if negative then -(k : Int) else k) := by
  by_cases fast : m < 2 ^ 53 ∧ k ≤ 22
  · refine iff_of_true (small_ofScientific negative fast).isFinite (below_of_small fast.1 ?_)
    split <;> omega
  · rw [Float.ofScientific, dif_neg fast, isFinite_ofScientific_model]
    cases negative with
    | false => exact Iff.rfl
    | true => rw [if_pos rfl, if_pos rfl, Int.negOfNat_eq, Int.ofNat_eq_natCast]

theorem lt_ten_pow (n : Nat) : n < 10 ^ digitCount n :=
  (Nat.length_toDigits_le_iff (by decide) Nat.length_toDigits_pos).1 le_rfl

theorem ten_pow_le {n : Nat} (h : n ≠ 0) : 10 ^ (digitCount n - 1) ≤ n := by
  by_cases one : digitCount n - 1 = 0
  · rw [one]
    exact Nat.pos_of_ne_zero h
  · by_contra fewer
    have fits : digitCount n ≤ digitCount n - 1 :=
      (Nat.length_toDigits_le_iff (by decide) (Nat.pos_of_ne_zero one)).2 (not_le.1 fewer)
    omega

/-- The numbers with a finite float are those below the limit. -/
theorem isFinite_nearest_iff (digits : Nat) (exponent : Int) :
    isFinite (nearest digits exponent) = true ↔ Below digits exponent := by
  rw [nearest]
  split
  · next zero => exact iff_of_true (by decide) (zero ▸ below_zero exponent)
  next nonzero =>
  have first : 0 < digitCount digits := Nat.length_toDigits_pos
  dsimp only
  split
  · exact iff_of_false (by decide) (not_below (ten_pow_le nonzero) (by omega))
  split
  · exact iff_of_true (by decide) (below_of_lt (lt_ten_pow digits) (by omega))
  · have power : (if decide (exponent < 0) = true then -(exponent.natAbs : Int)
        else exponent.natAbs) = exponent := by
      simp only [decide_eq_true_eq]
      split <;> omega
    rw [isFinite_ofScientific_iff, power]

theorem isFinite_toFloat_iff (d : Scientific) :
    isFinite d.toFloat = true ↔ Below d.digits d.exponent := by
  rw [Scientific.toFloat]
  split
  · rw [isFinite_neg_iff, isFinite_nearest_iff]
  · exact isFinite_nearest_iff _ _

/-! ## Powers of ten -/

theorem ten_pow_lt_limit : ∀ n ≤ 308, 10 ^ n < limit 970 := by
  decide +kernel

theorem below_ten_pow {n : Nat} (h : n ≤ 308) : Below 1 n := by
  rw [below_iff_of_nonneg (Int.natCast_nonneg n), Int.toNat_natCast, Nat.one_mul]
  exact ten_pow_lt_limit n h

/-- The float of a power of ten is one at least. -/
theorem atLeastOne_ofScientific {n : Nat} (h : n ≤ 308) :
    AtLeastOne (Float.ofScientific 1 false n).toModel.unpack := by
  by_cases fast : n ≤ 22
  · have powers : ∀ n < 23, AtLeastOne (Float.ofScientific 1 false n).toModel.unpack := by
      decide +kernel
    exact powers n (by omega)
  · have slow : Float.ofScientific 1 false n = .ofModel (.ofScientific 1 n) := by
      rw [Float.ofScientific, dif_neg (fun both => fast both.2)]
      rfl
    have finite := (isFinite_ofScientific_model 1 n).2 (below_ten_pow h)
    have nonzero : 1 <<< 53 * 10 ^ n ≠ 0 :=
      (Nat.mul_pos (by decide) (Nat.pow_pos (by decide))).ne'
    have digits : 53 ≤ (1 <<< 53 * 10 ^ n).log2 := by
      refine (Nat.le_log2 nonzero).2 ?_
      rw [Nat.shiftLeft_eq, Nat.one_mul]
      exact Nat.le_mul_of_pos_right _ (Nat.pow_pos (by decide))
    rw [ofScientific_of_nonneg one_ne_zero (by omega)] at finite
    rw [slow, ofScientific_of_nonneg one_ne_zero (by omega)]
    have total : totalExponent (1 <<< 53 * 10 ^ n) (-53 + 0) = (1 <<< 53 * 10 ^ n).log2 - 52 := by
      rw [totalExponent]
      omega
    refine atLeastOne_round _ _ (by omega) ?_ nonzero finite
    rw [excess, binary64_targetExponent]
    omega

/-! ## Texts in free form -/

/-- What follows the sign of a number. -/
def afterSign : List Char → List Char
  | '-' :: rest => rest
  | '+' :: rest => rest
  | cs => cs

/-- The text writes a number in digits that is below the limit. -/
def Moderate (s : String) : Prop :=
  ∃ digits exponent, readMagnitude? (afterSign s.toList) = some (digits, exponent) ∧
    Below digits exponent

theorem not_isFinite_of_readName {cs : List Char} {x : Float} (h : readName? cs = some x) :
    ¬isFinite x = true := by
  rw [readName?] at h
  split at h
  · cases h
    decide
  split at h
  · cases h
    decide
  · cases h

theorem read?_eq (s : String) : ∃ negative, read? s =
    match readMagnitude? (afterSign s.toList) with
    | some (digits, exponent) => some (Scientific.toFloat ⟨negative, digits, exponent⟩)
    | none => (readName? (afterSign s.toList)).map fun x => if negative then -x else x := by
  rw [read?]
  generalize s.toList = cs
  fun_cases afterSign cs with
  | case1 rest => exact ⟨true, rfl⟩
  | case2 rest => exact ⟨false, rfl⟩
  | case3 _ minus plus =>
    refine ⟨false, ?_⟩
    split
    next negative rest signed =>
    split at signed
    · exact absurd rfl (minus _)
    · exact absurd rfl (plus _)
    · cases signed
      rfl

/-- A text that reads as a number writes a finite one in digits and below the limit. -/
theorem isFinite_read_iff {s : String} {x : Float} (h : read? s = some x) :
    isFinite x = true ↔ Moderate s := by
  obtain ⟨negative, read⟩ := read?_eq s
  rw [read] at h
  rw [Moderate]
  cases magnitude : readMagnitude? (afterSign s.toList) with
  | some d =>
    obtain ⟨digits, exponent⟩ := d
    rw [magnitude] at h
    cases h
    rw [isFinite_toFloat_iff]
    simp
  | none =>
    rw [magnitude] at h
    obtain ⟨y, name, rfl⟩ := Option.map_eq_some_iff.1 h
    have infinite := not_isFinite_of_readName name
    refine iff_of_false ?_ (by simp)
    split
    · rwa [isFinite_neg_iff]
    · exact infinite

end Gazetteer.Decimal
