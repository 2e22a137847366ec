import Gazetteer.Decimal.Scientific

/-!
# The shortest digits of a float

A finite float is written with the fewest decimal digits that read back as the same float, and of
those with the nearest ones. Everything is decided in whole numbers.

* `Binary`: a positive float as `mantissa * 2 ^ exponent`.
* `shortest`: its shortest digits with their power of ten.
* `Layout`, `write`: how digits and power of ten are laid out.
-/

set_option autoImplicit false

namespace Gazetteer.Decimal

/-! ## Taking a float apart -/

/-- A float is neither infinite nor undefined. -/
def isFinite (x : Float) : Bool := (x.toBits >>> 52) &&& 0x7FF != 0x7FF

def isNegative (x : Float) : Bool := x.toBits >>> 63 != 0

/-- The positive number `mantissa * 2 ^ exponent`; `atPower` marks a power of two, below which the
floats lie twice as dense. -/
structure Binary where
  mantissa : Nat
  exponent : Int
  atPower : Bool

/-- The size of a finite float. -/
def Binary.ofFloat (x : Float) : Binary :=
  let bits := x.toBits.toNat
  let fraction : Nat := bits % Nat.pow 2 52
  let biased : Nat := bits / Nat.pow 2 52 % Nat.pow 2 11
  if biased = 0 then ⟨fraction, -1074, false⟩
  else ⟨Nat.pow 2 52 + fraction, (biased : Int) - 1075, fraction = 0 && biased ≠ 1⟩

/-! ## The interval of a float

With every number multiplied by `4 * scale`, the decimal numbers that read as the float lie between
`low` and `high`, both included when the mantissa is even. -/

/-- The float and the ends of its interval as numerators over a common denominator. -/
structure Interval where
  low : Nat
  value : Nat
  high : Nat
  denominator : Nat
  closed : Bool

def Binary.interval (b : Binary) : Interval :=
  let up := Nat.pow 2 b.exponent.toNat
  let down := Nat.pow 2 (-b.exponent).toNat
  let below := if b.atPower then 1 else 2
  ⟨(4 * b.mantissa - below) * up, 4 * b.mantissa * up, (4 * b.mantissa + 2) * up, 4 * down,
    b.mantissa % 2 = 0⟩

/-- A multiple of the denominator lies in the interval. -/
def Interval.holds (i : Interval) (n : Nat) : Bool :=
  let n := n * i.denominator
  if i.closed then i.low ≤ n && n ≤ i.high else i.low < n && n < i.high

/-- Counts in units of `10 ^ k`. -/
def Interval.inUnits (i : Interval) (k : Int) : Interval :=
  let up := Nat.pow 10 (-k).toNat
  { i with
    low := i.low * up, value := i.value * up, high := i.high * up,
    denominator := i.denominator * Nat.pow 10 k.toNat }

/-- The power of ten of the first digit. -/
def Interval.leading (i : Interval) : Int :=
  if i.denominator ≤ i.value then (digitCount (i.value / i.denominator) : Int) - 1
  else
    match (List.range 330).find? fun j => i.denominator ≤ i.value * Nat.pow 10 j with
    | some places => -(places : Int)
    | none => 0

/-! ## The digits -/

/-- The whole number in the interval that is nearest to the value, if the one below or the one above
lies in it. A tie goes to the even one. -/
def Interval.candidate? (i : Interval) : Option Nat :=
  let below := i.value / i.denominator
  let above := below + 1
  match i.holds below && below != 0, i.holds above with
  | false, false => none
  | true, false => some below
  | false, true => some above
  | true, true =>
    let rest := 2 * (i.value % i.denominator)
    if rest < i.denominator then some below
    else if i.denominator < rest then some above
    else if below % 2 = 0 then some below else some above

/-- Drops the zeros at the end, each of which raises the power of ten. -/
def dropZeros : Nat → Nat → Int → Nat × Int
  | 0, digits, exponent => (digits, exponent)
  | fuel + 1, digits, exponent =>
    if digits ≠ 0 ∧ digits % 10 = 0 then dropZeros fuel (digits / 10) (exponent + 1)
    else (digits, exponent)

/-- The fewest digits that read back as the size of a finite float, and their power of ten. -/
def shortest (x : Float) : Nat × Int :=
  let b := Binary.ofFloat x
  if b.mantissa = 0 then (0, 0)
  else
    let i := b.interval
    let top := i.leading
    let found := (List.range 18).findSome? fun (n : Nat) =>
      let unit := top - (n : Int)
      (i.inUnits unit).candidate?.map fun digits => (digits, unit)
    match found with
    | some (digits, unit) => dropZeros 20 digits unit
    | none => (0, 0)

/-! ## Layout -/

/-- Where the digits stand in full and how a power of ten is written. -/
structure Layout where
  /-- The lowest power of ten of the first digit that is written in full. -/
  lowest : Int
  /-- The first power of ten that is no longer written in full. -/
  above : Int
  exponentMark : String
  /-- What stands in front of a power of ten that is not negative. -/
  plus : String

/-- The layout of every float that the directory writes: in full from `0.00001` to below
`10000000000000000.0`, always with a point, and with the sign of the power of ten otherwise. -/
def Layout.standard : Layout := ⟨-5, 16, "e", "+"⟩

/-- Lays out digits whose first one has the power of ten `top`. -/
def Layout.place (l : Layout) (digits : List Char) (top : Int) : String :=
  if l.lowest ≤ top ∧ top < l.above then
    if top < 0 then
      String.ofList ('0' :: '.' :: List.replicate (-top - 1).toNat '0' ++ digits)
    else
      let whole := top.toNat + 1
      let padded := digits ++ List.replicate (whole - digits.length) '0'
      let fraction := padded.drop whole
      String.ofList (padded.take whole ++ '.' :: (if fraction.isEmpty then ['0'] else fraction))
  else
    let mantissa := match digits with
      | [d] => [d]
      | d :: rest => d :: '.' :: rest
      | [] => ['0']
    let power := if top < 0 then "-" ++ toString top.natAbs else l.plus ++ toString top.natAbs
    String.ofList mantissa ++ l.exponentMark ++ power

/-- The text of a finite float. -/
def write (x : Float) : String :=
  let (digits, exponent) := shortest x
  let body :=
    if digits = 0 then "0.0"
    else
      let ds := Nat.toDigits 10 digits
      Layout.standard.place ds (exponent + (ds.length : Int) - 1)
  if isNegative x then "-" ++ body else body

end Gazetteer.Decimal
