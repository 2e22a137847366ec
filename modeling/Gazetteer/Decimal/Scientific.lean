import Gazetteer.Text.Whole

/-!
# Decimal numbers and binary floats

A decimal number is a whole number of digits with a power of ten. Its float is the nearest one, a
tie going to the even neighbour.

* `Scientific`: sign, digits, power of ten.
* `Scientific.toFloat`: the nearest float; past the largest one it is infinite.
* `read?`: the free form of a float, as people and other programs write it.
-/

set_option autoImplicit false

namespace Gazetteer.Decimal

open Gazetteer.Text (digitsFrom)

/-- The number `± digits * 10 ^ exponent`. -/
structure Scientific where
  negative : Bool
  digits : Nat
  exponent : Int

def infinity : Float := Float.ofBits 0x7FF0000000000000

def notANumber : Float := Float.ofBits 0x7FF8000000000000

/-- How many decimal digits a number has; zero has one. -/
def digitCount (n : Nat) : Nat := (Nat.toDigits 10 n).length

/-- The float nearest to `digits * 10 ^ exponent`. Powers of ten so large or so small that the
digits cannot matter are not multiplied out. -/
def nearest (digits : Nat) (exponent : Int) : Float :=
  if digits = 0 then 0
  else
    let top := exponent + digitCount digits
    if 310 < top then infinity
    else if top < -330 then 0
    else Float.ofScientific digits (exponent < 0) exponent.natAbs

/-- The float nearest to the number. Zero keeps its sign. -/
def Scientific.toFloat (d : Scientific) : Float :=
  if d.negative then -(nearest d.digits d.exponent) else nearest d.digits d.exponent

/-! ## Reading -/

/-- Takes the digits off the front. -/
def takeDigits (cs : List Char) : List Char × List Char :=
  (cs.takeWhile Char.isDigit, cs.dropWhile Char.isDigit)

/-- The power of ten after the digits: nothing, or `e` with an optional sign and digits. -/
def readExponent? : List Char → Option Int
  | [] => some 0
  | e :: rest =>
    if e ≠ 'e' ∧ e ≠ 'E' then none
    else
      match rest with
      | '-' :: r => (Text.digitsValue? r).map fun n => -(n : Int)
      | '+' :: r => (Text.digitsValue? r).map Int.ofNat
      | r => (Text.digitsValue? r).map Int.ofNat

/-- Digits with an optional point and an optional power of ten. A digit must stand on one side of
the point. -/
def readMagnitude? (cs : List Char) : Option (Nat × Int) :=
  let (whole, rest) := takeDigits cs
  let (fraction, rest) := match rest with
    | '.' :: r => takeDigits r
    | r => ([], r)
  if whole.isEmpty && fraction.isEmpty then none
  else
    (readExponent? rest).map fun e =>
      (digitsFrom 0 (whole ++ fraction), e - (fraction.length : Int))

/-- The names of the values that have no digits, in any letter case. -/
def readName? (cs : List Char) : Option Float :=
  let name := String.ofList (cs.map Char.toLower)
  if name = "inf" ∨ name = "infinity" then some infinity
  else if name = "nan" then some notANumber
  else none

/-- A float in its free form: an optional sign, then digits or a name. -/
def read? (s : String) : Option Float :=
  let (negative, cs) := match s.toList with
    | '-' :: r => (true, r)
    | '+' :: r => (false, r)
    | r => (false, r)
  match readMagnitude? cs with
  | some (digits, exponent) => some (Scientific.toFloat ⟨negative, digits, exponent⟩)
  | none => (readName? cs).map fun x => if negative then -x else x

end Gazetteer.Decimal
