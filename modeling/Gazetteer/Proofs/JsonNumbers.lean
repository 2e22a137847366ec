import Gazetteer.Proofs.Origins
import Gazetteer.Proofs.Overflow

/-!
# Numbers that JSON can hold

The digits of a number in JSON fit one word, and a number that its power of ten would make too large
has no value. So whatever is read from a text, every number in it is a whole one of one word or a
finite float.

* `Bounded`, `Literal.value_bounded`: the values that a written number can have.
* `Decoder.Yields`: what all values have that a decoder reads from a text.
* `Decoder.float_yields`, `Decoder.record_yields`, ...: what the decoders yield.
-/

set_option autoImplicit false

namespace Gazetteer.Json

open Float.Model (UnpackedFloat totalExponent)
open Decimal (isFinite Small AtLeastOne)
open Text (maxWord digitsFrom)

/-! ## Numbers in JSON -/

/-- What a number in JSON can be: a whole number of one word, or a finite float. -/
def Bounded : Json → Prop
  | .int n => n.natAbs ≤ maxWord
  | .float x => isFinite x = true
  | _ => False

/-- The float of a whole number of one word. -/
theorem small_ofNat {n : Nat} (h : n ≤ maxWord) : Small 87 (Float.ofNat n) := by
  show Small 87 (Float.ofScientific n false 0)
  by_cases few : n < 2 ^ 53
  · exact Decimal.small_ofScientific false ⟨few, by decide⟩
  · have slow : Float.ofScientific n false 0 = .ofModel (.ofScientific n (0 : Nat)) := by
      rw [Float.ofScientific, dif_neg (fun fast => few fast.1)]
      rfl
    have digits : n.log2 ≤ 63 := Decimal.log2_le (lt_of_le_of_lt h (by decide))
    have shifted := Decimal.log2_le (Decimal.shiftLeft_lt n 53)
    rw [slow, Decimal.ofScientific_of_nonneg (by omega) (by decide)]
    refine Decimal.Within.mono (Decimal.small_pack (b := 12) ?_ (by decide) (by decide)) (by decide)
    refine Decimal.within_round (b := 11) _ _ (by decide) (by decide) ?_
    rw [Nat.pow_zero, Nat.mul_one, totalExponent]
    omega

theorem isFinite_ofInt {n : Int} (h : n.natAbs ≤ maxWord) : isFinite (Float.ofInt n) = true := by
  cases n with
  | ofNat n => exact (small_ofNat h).isFinite
  | negSucc n =>
    show isFinite (-(Float.ofNat (n + 1))) = true
    rw [Decimal.isFinite_neg_iff]
    exact (small_ofNat h).isFinite

/-- The powers of ten that are applied to digits. -/
theorem one_le_tenTo {n : Nat} (h : n ≤ 308) : AtLeastOne (tenTo n).toModel.unpack := by
  have place : Decimal.digitCount 1 = 1 := by decide
  have written : tenTo n = Float.ofScientific 1 false n := by
    rw [tenTo, Decimal.nearest, if_neg one_ne_zero, place]
    dsimp only
    rw [if_neg (by omega), if_neg (by omega), Int.natAbs_natCast, decide_eq_false (by omega)]
  rw [written]
  exact Decimal.atLeastOne_ofScientific h

/-- Applying a power of ten ends in a finite float or goes on with a smaller number. -/
theorem scale_cases {steps : Nat} {b : Int} {x y : Float} {exponent : Int} (small : Small b x)
    (low : -1074 ≤ b) (high : b + 1 ≤ 971) (h : scale? steps x exponent = some y) :
    isFinite y = true ∨
      ∃ n, steps = n + 1 ∧ scale? n (x / tenTo 308) (exponent + 308) = some y := by
  unfold scale? at h
  split at h
  · split at h
    · dsimp only at h
      split at h
      · next finite =>
        cases h
        exact .inl finite
      · cases h
    · cases h
      exact .inl (Decimal.small_div small (one_le_tenTo (by omega)) low high).isFinite
  split at h
  · cases h
    exact .inl small.isFinite
  split at h
  · cases h
  · cases steps with
    | zero =>
      cases h
      exact .inl (by decide)
    | succ n => exact .inr ⟨n, rfl, h⟩

/-- A small float with a power of ten is finite, if it has a value. -/
theorem isFinite_scale {steps : Nat} {b : Int} {x y : Float} {exponent : Int} (small : Small b x)
    (low : -1074 ≤ b) (high : b + steps + 1 ≤ 971) (h : scale? steps x exponent = some y) :
    isFinite y = true := by
  -- every step divides, which may raise the exponent of the float by one
  induction steps generalizing b x exponent with
  | zero =>
    rcases scale_cases small low (by omega) h with finite | ⟨n, same, -⟩
    · exact finite
    · cases same
  | succ n ih =>
    rcases scale_cases small low (by omega) h with finite | ⟨_, same, more⟩
    · exact finite
    · cases same
      have one : AtLeastOne (tenTo 308).toModel.unpack := one_le_tenTo le_rfl
      have smaller : Small (b + 1) (x / tenTo 308) := Decimal.small_div small one low (by omega)
      exact ih smaller (by omega) (by omega) more

theorem takeWhole_le {d : Digits} (h : d.value ≤ maxWord) (cs : List Char) :
    (d.takeWhole cs).value ≤ maxWord := by
  induction cs generalizing d with
  | nil => exact h
  | cons c rest ih =>
    rw [Digits.takeWhole]
    split
    · next fits => exact ih (of_decide_eq_true fits)
    · exact h

theorem takeFraction_le {d : Digits} (h : d.value ≤ maxWord) (cs : List Char) :
    (d.takeFraction cs).value ≤ maxWord := by
  induction cs generalizing d with
  | nil => exact h
  | cons c rest ih =>
    rw [Digits.takeFraction]
    split
    · next fits => exact ih (of_decide_eq_true fits)
    · exact h

theorem isFinite_digits {d : Digits} (h : d.value ≤ maxWord) {power : Option (Bool × List Char)}
    {x : Float} (value : d.toFloat? power = some x) : isFinite x = true := by
  have small := small_ofNat h
  cases power with
  | none => exact isFinite_scale small (by decide) (by decide) value
  | some p =>
    obtain ⟨negative, digits⟩ := p
    rw [Digits.toFloat?] at value
    split at value
    · split at value
      · cases value
      · cases value
        decide
    · exact isFinite_scale small (by decide) (by decide) value

/-- Every number that is written in JSON and has a value is whole and of one word, or has a finite
float. -/
theorem Literal.value_bounded {l : Literal} {j : Json} (h : l.value? = some j) : Bounded j := by
  have whole := takeWhole_le (d := ⟨0, 0⟩) (Nat.zero_le _) l.whole
  have all := takeFraction_le whole (l.fraction.getD [])
  have signed : ∀ x : Float, isFinite x = true →
      Bounded (.float (if l.negative then -x else x)) := by
    intro x finite
    rw [Bounded]
    split
    · rwa [Decimal.isFinite_neg_iff]
    · exact finite
  rw [Literal.value?] at h
  dsimp only at h
  split at h
  · split at h
    · obtain ⟨x, value, rfl⟩ := Option.map_eq_some_iff.1 h
      exact signed x (isFinite_digits whole value)
    split at h
    · cases h
      exact whole
    split at h
    · cases h
      exact signed _ (small_ofNat whole).isFinite
    · cases h
      rw [Bounded, Int.natAbs_neg]
      exact whole
  · obtain ⟨x, value, rfl⟩ := Option.map_eq_some_iff.1 h
    exact signed x (isFinite_digits all value)

/-! ## What decoders read from texts -/

variable {α β σ : Type}

/-- Whatever the decoder reads from a text has the property. -/
def Decoder.Yields (d : Decoder α) (P : α → Prop) : Prop :=
  ∀ (room : Nat) (s : Source) (a : α), s.Written → d room s = .ok a → P a

/-- Whatever the field reads from a text, the record keeps the property. -/
def RecordField.Keeps (f : RecordField σ) (P : σ → Prop) : Prop :=
  ∀ (room : Nat) (s : Source) (put : σ → σ) (r : σ), s.Written → f.read room s = .ok put →
    P r → P (put r)

namespace RecordField

variable {f : RecordField σ} {d : Decoder α} {put : α → σ → σ} {P : σ → Prop}

/-- A field keeps what it puts into the record. -/
theorem Keeps.of_yields {Q : α → Prop} (reads : f.read = fun room s => (d room s).map put)
    (yields : d.Yields Q) (sets : ∀ v r, Q v → P r → P (put v r)) : f.Keeps P := by
  intro room s _ r written read before
  rw [reads] at read
  obtain ⟨v, value, rfl⟩ := ok_of_map read
  exact sets v r (yields room s v written value) before

/-- A field keeps what has nothing to do with it. -/
theorem Keeps.of_forall (reads : f.read = fun room s => (d room s).map put)
    (sets : ∀ v r, P r → P (put v r)) : f.Keeps P :=
  .of_yields (Q := fun _ => True) reads (fun _ _ _ _ _ => trivial) fun v r _ => sets v r

end RecordField

namespace Decoder

theorem float_yields : float.Yields fun x => Decimal.isFinite x = true := by
  intro room s x written read
  unfold float at read
  split at read
  · next n =>
    cases n with
    | known value => exact written.elim
    | written l =>
      split at read
      · next i value =>
        cases read
        exact isFinite_ofInt (Literal.value_bounded value)
      · next y value =>
        cases read
        exact Literal.value_bounded value
      · cases read
      · cases read
  · exact absurd read (unwanted_ne_ok _ _)

theorem optional_yields {d : Decoder α} {P : α → Prop} (h : d.Yields P) :
    (optional d).Yields fun o => ∀ a, o = some a → P a := by
  intro room s o written read
  unfold optional at read
  split at read
  · cases read
    rintro a ⟨⟩
  · obtain ⟨a, value, rfl⟩ := ok_of_map read
    rintro _ ⟨⟩
    exact h room _ a written value

theorem readFields_keeps {fields : List (RecordField σ)} {P : σ → Prop}
    (keeps : ∀ f ∈ fields, f.Keeps P) {room : Nat} {closed : Bool} {seen : List String} {acc : σ}
    {ms : List (Option String × Source)} {r : List String × σ} (written : Source.MembersWritten ms)
    (before : P acc) (read : readFields fields room closed seen acc ms = .ok r) : P r.2 := by
  induction ms generalizing seen acc with
  | nil => cases closed <;> cases read; exact before
  | cons m ms ih =>
    obtain ⟨_ | k, v⟩ := m
    · cases read
    obtain ⟨first, later⟩ := written
    rw [readFields] at read
    split at read
    · split at read
      · exact ih later before read
      · cases read
    · next f known =>
      split at read
      · cases read
      · obtain ⟨put, own, rest⟩ := bind_eq_ok read
        exact ih later (keeps f (List.mem_of_find?_eq_some known) room v put acc first own before)
          rest

theorem readPositions_keeps {fields : List (RecordField σ)} {P : σ → Prop}
    (keeps : ∀ f ∈ fields, f.Keeps P) {room : Nat} {closed : Bool} {acc : σ} {xs : List Source}
    {r : σ} (written : Source.AllWritten xs) (before : P acc)
    (read : readPositions room closed fields acc xs = .ok r) : P r := by
  induction fields generalizing acc xs with
  | nil =>
    cases xs with
    | nil => cases closed <;> cases read; exact before
    | cons x xs => cases read
  | cons f fields ih =>
    obtain ⟨own, others⟩ := List.forall_mem_cons.1 keeps
    cases xs with
    | nil =>
      rw [readPositions] at read
      split at read
      · cases read
      split at read
      · exact ih others written before read
      · cases read
    | cons x xs =>
      obtain ⟨first, later⟩ := written
      obtain ⟨put, value, rest⟩ := bind_eq_ok read
      exact ih others later (own room x put acc first value before) rest

/-- A record has what it has in the beginning and what its fields keep. -/
theorem record_yields {fields : List (RecordField σ)} {initial : σ} {P : σ → Prop}
    (keeps : ∀ f ∈ fields, f.Keeps P) (before : P initial) : (record fields initial).Yields P := by
  intro room s a written read
  unfold record at read
  split at read
  · cases read
  · cases read
  · obtain ⟨r, fieldsRead, ends⟩ := bind_eq_ok read
    have kept := readFields_keeps keeps written before fieldsRead
    dsimp only at ends
    split at ends
    · cases ends
      exact kept
    · cases ends
  · exact readPositions_keeps keeps written before read
  · exact absurd read (unwanted_ne_ok _ _)

theorem ofText_yields {d : Decoder α} {P : α → Prop} (h : d.Yields P) {s : String} {a : α}
    (read : ofText d s = .ok a) : P a := by
  rw [ofText] at read
  cases value : d maxNesting (Source.read s.toList).1 with
  | error e =>
    simp only [value] at read
    cases read
  | ok b =>
    simp only [value] at read
    split at read
    · cases read
      exact h _ _ _ (Source.written_read _) value
    · cases read

end Decoder

end Gazetteer.Json
