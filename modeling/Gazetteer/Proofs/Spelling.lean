import Gazetteer.Metadata
import Mathlib

/-!
# Written texts and numbers read back

What is written between quotes is read back whatever characters are in it, and a number is written
in a form that is read as a literal.

* `readText_quote`: a text between quotes.
* `Literal.spelling`, `Literal.readLiteral_spelling`: a literal as it is written is read back.
* `SpelledAs`: the literal that a number is written as.
* `spelledAs_int`, `spelledAs_float`: every whole number and every finite float has one.
-/

set_option autoImplicit false

namespace Gazetteer.Json

open Source (Piece readPieces assemble readText readLiteral)

/-! ## Texts -/

/-- The piece stands for the character, which is a control character if it is given by its code. -/
def Source.Piece.StandsFor (p : Piece) (c : Char) : Prop :=
  p = .char c ∨ (p = .unit c.toNat ∧ c.toNat < 0x20)

theorem hexUnit_of_lt (n : Nat) (h : n < 0x20) : Source.hexUnit? '0' '0'
    (Text.hexDigit 'a' (n / 16)) (Text.hexDigit 'a' (n % 16)) = some n := by
  have zero : Text.hexValue? '0' = some 0 := rfl
  have high := Text.hexValue?_hexDigit_small (n / 16) (by omega)
  have low := Text.hexValue?_hexDigit_small (n % 16) (by omega)
  simp only [Source.hexUnit?, zero, high, low, Option.bind_eq_bind, Option.bind_some,
    Option.pure_def]
  exact congrArg some (by omega)

theorem readPieces_escape (c : Char) (seen : List Piece) (rest : List Char) :
    ∃ p : Piece, p.StandsFor c ∧
      readPieces seen (escape c ++ rest) = readPieces (p :: seen) rest := by
  by_cases special : c = '"' ∨ c = '\\' ∨ c = '\x08' ∨ c = '\t' ∨ c = '\n' ∨ c = '\x0c' ∨ c = '\r'
  · refine ⟨.char c, .inl rfl, ?_⟩
    obtain rfl | rfl | rfl | rfl | rfl | rfl | rfl := special <;> rfl
  · simp only [not_or] at special
    obtain ⟨quote, backslash, b, t, n, f, r⟩ := special
    by_cases control : c.toNat < 0x20
    · refine ⟨.unit c.toNat, .inr ⟨rfl, control⟩, ?_⟩
      have written : escape c = ['\\', 'u', '0', '0', Text.hexDigit 'a' (c.toNat / 16),
          Text.hexDigit 'a' (c.toNat % 16)] := by
        simp [escape, quote, backslash, b, t, n, f, r, control]
      rw [written]
      simp [readPieces, hexUnit_of_lt c.toNat control]
    · refine ⟨.char c, .inl rfl, ?_⟩
      have written : escape c = [c] := by
        simp [escape, quote, backslash, b, t, n, f, r, control]
      rw [written]
      simp [readPieces, backslash, control]

theorem readPieces_quote (cs : List Char) (seen : List Piece) (rest : List Char) :
    ∃ ps, List.Forall₂ Piece.StandsFor ps cs ∧
      readPieces seen (cs.flatMap escape ++ '"' :: rest) = some (seen.reverse ++ ps, rest) := by
  induction cs generalizing seen with
  | nil => exact ⟨[], .nil, by simp [readPieces]⟩
  | cons c cs ih =>
    obtain ⟨p, stands, first⟩ := readPieces_escape c seen (cs.flatMap escape ++ '"' :: rest)
    obtain ⟨ps, others, last⟩ := ih (p :: seen)
    refine ⟨p :: ps, .cons stands others, ?_⟩
    rw [List.flatMap_cons, List.append_assoc, first, last]
    simp

theorem assemble_unit {n : Nat} (control : n < 0x20) (ps : List Piece) :
    assemble (.unit n :: ps) = (assemble ps).map (Char.ofNat n :: ·) := by
  have high : ¬(0xD800 ≤ n ∧ n ≤ 0xDBFF) := by omega
  have low : ¬(0xDC00 ≤ n ∧ n ≤ 0xDFFF) := by omega
  have half : ¬(0xD800 ≤ n ∧ n ≤ 0xDFFF) := by omega
  cases ps with
  | nil => simp [assemble, half]
  | cons p rest =>
    cases p with
    | char c => simp [assemble, half]
    | unit m => rw [assemble, if_neg high, if_neg low]

theorem assemble_standsFor {ps : List Piece} {cs : List Char}
    (h : List.Forall₂ Piece.StandsFor ps cs) : assemble ps = some cs := by
  induction h with
  | nil => rfl
  | cons stands _ ih =>
    obtain rfl | ⟨rfl, control⟩ := stands
    · rw [assemble, ih]
      rfl
    · rw [assemble_unit control, ih, Char.ofNat_toNat]
      rfl

/-- A text between quotes reads back, whatever follows it. -/
theorem readText_quote (s : String) (rest : List Char) :
    ∃ cs, quote s ++ rest = '"' :: cs ∧ readText cs = some (some s, rest) := by
  obtain ⟨ps, stands, read⟩ := readPieces_quote s.toList [] rest
  refine ⟨s.toList.flatMap escape ++ '"' :: rest, by simp [quote], ?_⟩
  rw [readText, read]
  simp [assemble_standsFor stands]

/-! ## Rows of digits -/

/-- A row of digits, at least one. -/
def IsDigits (ds : List Char) : Prop := ds ≠ [] ∧ ∀ c ∈ ds, c.isDigit = true

theorem isDigits_toDigits (n : Nat) : IsDigits (Nat.toDigits 10 n) :=
  ⟨Nat.toDigits_ne_nil, fun _ hc => Nat.isDigit_of_mem_toDigits (by decide) (by decide) hc⟩

theorem toDigits_head {n : Nat} (h : 0 < n) : (Nat.toDigits 10 n).head? ≠ some '0' := by
  induction n using Nat.strong_induction_on with
  | _ n ih =>
    by_cases small : n < 10
    · rw [Nat.toDigits_of_lt_base small]
      interval_cases n <;> decide
    · have smaller := ih (n / 10) (by omega) (by omega)
      rw [Nat.toDigits_of_base_le (by decide) (by omega), List.head?_append_of_ne_nil]
      · exact smaller
      · exact Nat.toDigits_ne_nil

theorem isDigits_append_replicate {ds : List Char} (h : IsDigits ds) (n : Nat) :
    IsDigits (ds ++ List.replicate n '0') := by
  refine ⟨by simp [h.1], ?_⟩
  intro c hc
  obtain hc | hc := List.mem_append.1 hc
  · exact h.2 c hc
  · rw [List.eq_of_mem_replicate hc]
    rfl

theorem isDigits_replicate_append {ds : List Char} (h : IsDigits ds) (n : Nat) :
    IsDigits (List.replicate n '0' ++ ds) := by
  refine ⟨by simp [h.1], ?_⟩
  intro c hc
  obtain hc | hc := List.mem_append.1 hc
  · rw [List.eq_of_mem_replicate hc]
    rfl
  · exact h.2 c hc

/-- What may follow a value: nothing, a comma or a closing bracket. -/
def Ends : List Char → Prop
  | [] => True
  | c :: _ => c = ',' ∨ c = ']' ∨ c = '}'

/-- A text in front of which a row of digits stops. -/
def StopsDigits (rest : List Char) : Prop := ∀ c ∈ rest.head?, c.isDigit = false

theorem stopsDigits_cons {c : Char} (h : c.isDigit = false) (rest : List Char) :
    StopsDigits (c :: rest) := by
  intro x hx
  cases hx
  exact h

theorem Ends.stopsDigits {rest : List Char} (ends : Ends rest) : StopsDigits rest := by
  cases rest with
  | nil => exact fun _ hx => nomatch hx
  | cons c r => obtain rfl | rfl | rfl := ends <;> exact stopsDigits_cons (by decide) r

theorem takeDigits_append {ds rest : List Char} (digits : ∀ c ∈ ds, c.isDigit = true)
    (stops : StopsDigits rest) : Decimal.takeDigits (ds ++ rest) = (ds, rest) := by
  have stop : rest.takeWhile Char.isDigit = [] ∧ rest.dropWhile Char.isDigit = rest := by
    cases rest with
    | nil => exact ⟨rfl, rfl⟩
    | cons c r =>
      have first : c.isDigit = false := stops c rfl
      simp [first]
  rw [Decimal.takeDigits, List.takeWhile_append_of_pos digits, List.dropWhile_append_of_pos digits,
    stop.1, stop.2, List.append_nil]

/-! ## Literals -/

namespace Literal

/-- The digits behind the point, if there is one. -/
def fractionSpelling : Option (List Char) → List Char
  | none => []
  | some ds => '.' :: ds

/-- The power of ten, if there is one, always with its sign. -/
def powerSpelling : Option (Bool × List Char) → List Char
  | none => []
  | some (negative, ds) => 'e' :: (if negative then '-' else '+') :: ds

/-- The characters of a literal. -/
def spelling (l : Literal) : List Char :=
  (if l.negative then ['-'] else []) ++
    (l.whole ++ (fractionSpelling l.fraction ++ powerSpelling l.power))

/-- Every part of the literal has digits, and no zero stands in front of another digit. -/
structure Proper (l : Literal) : Prop where
  whole : IsDigits l.whole
  leading : l.whole.head? = some '0' → l.whole.length = 1
  fraction : ∀ ds, l.fraction = some ds → IsDigits ds
  power : ∀ negative ds, l.power = some (negative, ds) → IsDigits ds

theorem readPower_spelling {power : Option (Bool × List Char)} {rest : List Char}
    (digits : ∀ negative ds, power = some (negative, ds) → IsDigits ds) (ends : Ends rest) :
    Source.readPower (powerSpelling power ++ rest) = some (power, rest) := by
  cases power with
  | none =>
    cases rest with
    | nil => rfl
    | cons c r => obtain rfl | rfl | rfl := ends <;> rfl
  | some p =>
    obtain ⟨negative, ds⟩ := p
    obtain ⟨nonempty, digits⟩ := digits negative ds rfl
    have taken := takeDigits_append digits ends.stopsDigits
    cases negative <;> simp [powerSpelling, Source.readPower, taken, nonempty]

theorem stopsDigits_power (power : Option (Bool × List Char)) {rest : List Char}
    (ends : Ends rest) : StopsDigits (powerSpelling power ++ rest) := by
  cases power with
  | none => exact ends.stopsDigits
  | some p => exact stopsDigits_cons (by decide) _

theorem readFraction_spelling {fraction : Option (List Char)}
    (power : Option (Bool × List Char)) {rest : List Char}
    (digits : ∀ ds, fraction = some ds → IsDigits ds) (ends : Ends rest) :
    Source.readFraction (fractionSpelling fraction ++ (powerSpelling power ++ rest)) =
      some (fraction, powerSpelling power ++ rest) := by
  cases fraction with
  | none =>
    cases power with
    | some p => rfl
    | none =>
      cases rest with
      | nil => rfl
      | cons c r => obtain rfl | rfl | rfl := ends <;> rfl
  | some ds =>
    obtain ⟨nonempty, digits⟩ := digits ds rfl
    have taken := takeDigits_append digits (stopsDigits_power power ends)
    simp [fractionSpelling, Source.readFraction, taken, nonempty]

theorem stopsDigits_fraction (fraction : Option (List Char))
    (power : Option (Bool × List Char)) {rest : List Char} (ends : Ends rest) :
    StopsDigits (fractionSpelling fraction ++ (powerSpelling power ++ rest)) := by
  cases fraction with
  | none => exact stopsDigits_power power ends
  | some ds => exact stopsDigits_cons (by decide) _

/-- A literal is read back from its characters, whatever follows them. -/
theorem readLiteral_spelling {l : Literal} (proper : l.Proper) {rest : List Char}
    (ends : Ends rest) : readLiteral (l.spelling ++ rest) = some (l, rest) := by
  obtain ⟨negative, whole, fraction, power⟩ := l
  obtain ⟨nonempty, digits⟩ := proper.whole
  have taken := takeDigits_append digits (stopsDigits_fraction fraction power ends)
  have canonical : (whole.isEmpty || (whole.head? == some '0' && whole.length != 1)) = false := by
    have leading := proper.leading
    simp only at nonempty leading
    simpa [nonempty] using leading
  have behind := readFraction_spelling power proper.fraction ends
  have last := readPower_spelling proper.power ends
  cases negative with
  | true =>
    simp only [spelling, if_true, List.append_assoc, List.cons_append, List.nil_append, readLiteral,
      taken, canonical, Bool.false_eq_true, if_false, behind, last, Option.bind_eq_bind,
      Option.bind_some, Option.pure_def]
  | false =>
    obtain ⟨c, cs, rfl⟩ := List.exists_cons_of_ne_nil nonempty
    have unsigned : ∀ r, c :: (cs ++ (fractionSpelling fraction ++ (powerSpelling power ++ rest))) ≠
        '-' :: r := by
      intro r same
      obtain ⟨rfl, _⟩ := List.cons.inj same
      cases digits '-' List.mem_cons_self
    simp only [spelling, Bool.false_eq_true, if_false, List.append_assoc, List.nil_append,
      List.cons_append] at taken ⊢
    simp only [readLiteral, taken, canonical, Bool.false_eq_true, if_false, behind, last,
      Option.bind_eq_bind, Option.bind_some, Option.pure_def]

end Literal

/-! ## Numbers -/

/-- The number is written as the literal. -/
def SpelledAs (j : Json) (l : Literal) : Prop :=
  ∀ rest, Ends rest → readLiteral (print j ++ rest) = some (l, rest)

theorem spelledAs_of_print {j : Json} {l : Literal} (proper : l.Proper)
    (written : print j = l.spelling) : SpelledAs j l := by
  intro rest ends
  rw [written]
  exact Literal.readLiteral_spelling proper ends

theorem readLiteral_head {c : Char} {cs : List Char} {r : Literal × List Char}
    (h : readLiteral (c :: cs) = some r) : c = '-' ∨ c.isDigit = true := by
  by_contra other
  push Not at other
  obtain ⟨sign, digit⟩ := other
  have unsigned : ∀ r, c :: cs ≠ '-' :: r := fun r same => sign (List.cons.inj same).1
  have none : Decimal.takeDigits (c :: cs) = ([], c :: cs) := by simp [Decimal.takeDigits, digit]
  simp only [readLiteral, none, List.isEmpty_nil, Bool.true_or, if_true] at h
  cases h

theorem SpelledAs.head {j : Json} {l : Literal} (h : SpelledAs j l) :
    ∃ c cs, print j = c :: cs ∧ (c = '-' ∨ c.isDigit = true) := by
  have alone := h [] trivial
  cases written : print j with
  | nil =>
    rw [written] at alone
    cases alone
  | cons c cs =>
    rw [written] at alone
    exact ⟨c, cs, rfl, readLiteral_head alone⟩

/-- Only one literal is read. -/
theorem SpelledAs.unique {j : Json} {l l' : Literal} (h : SpelledAs j l) (h' : SpelledAs j l') :
    l = l' :=
  congrArg Prod.fst (Option.some.inj ((h [] trivial).symm.trans (h' [] trivial)))

/-- The literal of a whole number. -/
def intLiteral (n : Int) : Literal := ⟨decide (n < 0), Nat.toDigits 10 n.natAbs, none, none⟩

theorem intLiteral_proper (n : Int) : (intLiteral n).Proper where
  whole := isDigits_toDigits _
  leading := by
    intro zero
    obtain none | positive := Nat.eq_zero_or_pos n.natAbs
    · rw [intLiteral, none]
      rfl
    · exact absurd zero (toDigits_head positive)
  fraction := fun _ h => nomatch h
  power := fun _ _ h => nomatch h

theorem spelledAs_int (n : Int) : SpelledAs (.int n) (intLiteral n) := by
  refine spelledAs_of_print (intLiteral_proper n) ?_
  rw [print, printInt]
  by_cases negative : n < 0 <;> simp [intLiteral, Literal.spelling, Literal.fractionSpelling,
    Literal.powerSpelling, negative]

/-! ## Floats -/

/-- The point stands in front of the digits, behind a zero. -/
theorem spelling_below {ds : List Char} (digits : IsDigits ds) (zeros : Nat) :
    ∃ l : Literal, l.Proper ∧ l.negative = false ∧
      '0' :: '.' :: (List.replicate zeros '0' ++ ds) = l.spelling := by
  refine ⟨⟨false, ['0'], some (List.replicate zeros '0' ++ ds), none⟩,
    ⟨⟨by simp, by simp⟩, by simp, ?_, by simp⟩, rfl, by simp [Literal.spelling,
      Literal.fractionSpelling, Literal.powerSpelling]⟩
  intro fraction h
  cases h
  exact isDigits_replicate_append digits zeros

/-- The point stands behind some of the digits, or at the end and in front of a zero. -/
theorem spelling_within {d : Char} {rest : List Char} (digits : IsDigits (d :: rest))
    (nonzero : d ≠ '0') (places : Nat) :
    ∃ l : Literal, l.Proper ∧ l.negative = false ∧
      (d :: rest).take (places + 1) ++ '.' :: (if ((d :: rest).drop (places + 1)).isEmpty then ['0']
        else (d :: rest).drop (places + 1)) = l.spelling := by
  have whole : IsDigits ((d :: rest).take (places + 1)) :=
    ⟨by simp, fun c hc => digits.2 c (List.mem_of_mem_take hc)⟩
  refine ⟨⟨false, (d :: rest).take (places + 1), some (if ((d :: rest).drop (places + 1)).isEmpty
    then ['0'] else (d :: rest).drop (places + 1)), none⟩, ⟨whole, ?_, ?_, by simp⟩, rfl,
    by simp [Literal.spelling, Literal.fractionSpelling, Literal.powerSpelling]⟩
  · intro zero
    exact absurd (Option.some.inj zero) nonzero
  · intro fraction h
    cases h
    split
    · exact ⟨by simp, by simp⟩
    · next shown => exact ⟨by simpa using shown, fun c hc => digits.2 c (List.mem_of_mem_drop hc)⟩

/-- The point stands behind the first digit, and the power of ten is written. -/
theorem spelling_scientific {d : Char} {rest : List Char} (digits : IsDigits (d :: rest))
    (top : Int) :
    ∃ l : Literal, l.Proper ∧ l.negative = false ∧
      d :: Literal.fractionSpelling (if rest = [] then none else some rest) ++
        Literal.powerSpelling (some (decide (top < 0), Nat.toDigits 10 top.natAbs)) =
          l.spelling := by
  refine ⟨⟨false, [d], if rest = [] then none else some rest,
    some (decide (top < 0), Nat.toDigits 10 top.natAbs)⟩,
    ⟨⟨by simp, ?_⟩, fun _ => rfl, ?_, ?_⟩, rfl, by simp [Literal.spelling]⟩
  · intro c hc
    rw [List.mem_singleton.1 hc]
    exact digits.2 d List.mem_cons_self
  · intro fraction h
    by_cases none : rest = []
    · rw [if_pos none] at h
      cases h
    · rw [if_neg none] at h
      cases h
      exact ⟨none, fun c hc => digits.2 c (List.mem_cons_of_mem d hc)⟩
  · intro negative ds h
    cases h
    exact isDigits_toDigits _

/-- Digits that do not begin with a zero make the literal of a float, wherever the point is put. -/
theorem place_spelling {ds : List Char} (digits : IsDigits ds) (leading : ds.head? ≠ some '0')
    (top : Int) : ∃ l : Literal, l.Proper ∧ l.negative = false ∧
      (Decimal.Layout.standard.place ds top).toList = l.spelling := by
  obtain ⟨d, rest, rfl⟩ := List.exists_cons_of_ne_nil digits.1
  have nonzero : d ≠ '0' := by simpa using leading
  unfold Decimal.Layout.place
  split
  · split
    · rw [String.toList_ofList]
      exact spelling_below digits _
    · rw [String.toList_ofList]
      exact spelling_within (isDigits_append_replicate digits _) nonzero top.toNat
  · obtain ⟨l, proper, positive, written⟩ := spelling_scientific digits top
    refine ⟨l, proper, positive, .trans ?_ written⟩
    cases rest <;> by_cases negative : top < 0 <;>
      simp [Literal.fractionSpelling, Literal.powerSpelling, negative, Decimal.Layout.standard,
        Nat.repr, toString]

/-- The literal of a finite float. -/
theorem write_spelling (x : Float) :
    ∃ l : Literal, l.Proper ∧ (Decimal.write x).toList = l.spelling := by
  have body : ∃ l : Literal, l.Proper ∧ l.negative = false ∧
      (if (Decimal.shortest x).1 = 0 then "0.0"
        else Decimal.Layout.standard.place (Nat.toDigits 10 (Decimal.shortest x).1)
          ((Decimal.shortest x).2 +
            ((Nat.toDigits 10 (Decimal.shortest x).1).length : Int) - 1)).toList = l.spelling := by
    split
    · exact ⟨⟨false, ['0'], some ['0'], none⟩,
        ⟨⟨by simp, by simp⟩, by simp, by simp [IsDigits], by simp⟩, rfl, rfl⟩
    · next some =>
      exact place_spelling (isDigits_toDigits _) (toDigits_head (Nat.pos_of_ne_zero some)) _
  obtain ⟨l, proper, positive, written⟩ := body
  rw [Decimal.write]
  dsimp only
  split
  · refine ⟨{ l with negative := true }, ⟨proper.whole, proper.leading, proper.fraction,
      proper.power⟩, ?_⟩
    rw [String.toList_append, written]
    simp [Literal.spelling, positive]
  · exact ⟨l, proper, written⟩

theorem spelledAs_float {x : Float} (finite : Decimal.isFinite x = true) :
    ∃ l, SpelledAs (.float x) l := by
  obtain ⟨l, proper, written⟩ := write_spelling x
  exact ⟨l, spelledAs_of_print proper (by rw [print, printFloat, if_pos finite, written])⟩

end Gazetteer.Json
