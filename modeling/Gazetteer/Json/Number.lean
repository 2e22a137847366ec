import Gazetteer.Decimal.Shortest
import Gazetteer.Json.Value

/-!
# JSON numbers

A number without point and power of ten is whole while it fits a 64-bit word; every other number is
a float. The digits of a float are taken as long as they fit a 64-bit word, and the power of ten is
applied to them in float arithmetic.

* `Literal`: a number as it is written.
* `Literal.value?`: its value; too large a float has none.
-/

set_option autoImplicit false

namespace Gazetteer.Json

open Gazetteer.Text (maxWord digitValue digitsFrom)

/-- A number as it is written. -/
structure Literal where
  negative : Bool
  whole : List Char
  fraction : Option (List Char)
  /-- The power of ten: its sign is negative, its digits. -/
  power : Option (Bool × List Char)

/-! ## Digits that fit a word -/

/-- Digits read so far, with the power of ten that they stand for. -/
structure Digits where
  value : Nat
  exponent : Int

/-- One more digit fits the word. -/
def Digits.fits (d : Digits) (c : Char) : Bool := d.value * 10 + digitValue c ≤ maxWord

/-- Reads whole digits. From the first one that does not fit on, a digit counts for its place
only. -/
def Digits.takeWhole (d : Digits) : List Char → Digits
  | [] => d
  | c :: rest =>
    if d.fits c then Digits.takeWhole ⟨d.value * 10 + digitValue c, d.exponent⟩ rest
    else ⟨d.value, d.exponent + 1 + (rest.length : Int)⟩

/-- Reads digits after the point. From the first one that does not fit on, they count for
nothing. -/
def Digits.takeFraction (d : Digits) : List Char → Digits
  | [] => d
  | c :: rest =>
    if d.fits c then Digits.takeFraction ⟨d.value * 10 + digitValue c, d.exponent - 1⟩ rest
    else d

/-! ## Applying the power of ten -/

/-- The float nearest to a power of ten. -/
def tenTo (n : Nat) : Float := Decimal.nearest 1 n

/-- `x * 10 ^ exponent`, divided in steps of `10 ^ 308` while the power is smaller. A product past
the largest float has no value. -/
def scale? : Nat → Float → Int → Option Float
  | steps, x, exponent =>
    if exponent.natAbs ≤ 308 then
      if 0 ≤ exponent then
        let y := x * tenTo exponent.natAbs
        if Decimal.isFinite y then some y else none
      else some (x / tenTo exponent.natAbs)
    else if x == 0 then some x
    else if 0 ≤ exponent then none
    else
      match steps with
      | 0 => some 0
      | steps + 1 => scale? steps (x / tenTo 308) (exponent + 308)

/-- The largest power of ten that is told apart from an endless one. -/
def maxPower : Nat := UInt32.size / 2 - 1

/-- The float with these digits and this power of ten in front of the one that is written. -/
def Digits.toFloat? (d : Digits) (power : Option (Bool × List Char)) : Option Float :=
  match power with
  | none => scale? 4 (Float.ofNat d.value) d.exponent
  | some (negative, digits) =>
    let n := digitsFrom 0 digits
    if maxPower < n then if d.value ≠ 0 ∧ !negative then none else some 0
    else scale? 4 (Float.ofNat d.value) (d.exponent + if negative then -(n : Int) else n)

/-- The value of a number. A negative whole number past the 64-bit range and a negative zero are
floats. -/
def Literal.value? (l : Literal) : Option Json :=
  let whole := Digits.takeWhole ⟨0, 0⟩ l.whole
  let all := whole.takeFraction (l.fraction.getD [])
  let signed (x : Float) : Json := .float (if l.negative then -x else x)
  match l.fraction, l.power with
  | none, none =>
    if whole.exponent ≠ 0 then (whole.toFloat? none).map signed
    else if !l.negative then some (.int whole.value)
    else if whole.value = 0 ∨ UInt64.size / 2 < whole.value then some (signed (Float.ofNat whole.value))
    else some (.int (-(whole.value : Int)))
  | _, power => (all.toFloat? power).map signed

end Gazetteer.Json
