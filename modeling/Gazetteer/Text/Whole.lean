/-!
# Whole numbers in text

The written form of a whole number: an optional sign and at least one ASCII digit, nothing around
them. A number outside the range that is asked for is refused, as is a minus sign where no negative
number can stand.

* `digitsValue?`: the value of a run of digits.
* `readNat?`, `readInt?`: a number with an upper bound, or in a range.
-/

set_option autoImplicit false

namespace Gazetteer.Text

/-- The value of an ASCII digit. -/
def digitValue (c : Char) : Nat := c.toNat - '0'.toNat

/-- The value of a run of digits read from the left, `acc` standing in front. -/
def digitsFrom (acc : Nat) (cs : List Char) : Nat :=
  cs.foldl (fun n c => 10 * n + digitValue c) acc

/-- The value of a non-empty run of ASCII digits. -/
def digitsValue? (cs : List Char) : Option Nat :=
  if cs.isEmpty || !cs.all Char.isDigit then none else some (digitsFrom 0 cs)

/-- A number of at most `bound`; a plus sign may stand in front. -/
def readNat? (bound : Nat) (s : String) : Option Nat :=
  let digits := match s.toList with
    | '+' :: r => r
    | r => r
  (digitsValue? digits).filter (· ≤ bound)

/-- A number from `low` to `high`; either sign may stand in front. -/
def readInt? (low high : Int) (s : String) : Option Int :=
  let value := match s.toList with
    | '-' :: r => (digitsValue? r).map fun n => -(n : Int)
    | '+' :: r => (digitsValue? r).map Int.ofNat
    | r => (digitsValue? r).map Int.ofNat
  value.filter fun n => low ≤ n && n ≤ high

/-- The largest value of an unsigned 64-bit word. -/
def maxWord : Nat := UInt64.size - 1

/-- A number that fits an unsigned 64-bit word. -/
def readWord? (s : String) : Option Nat := readNat? maxWord s

/-- A number that fits a signed 64-bit word. -/
def readSigned? (s : String) : Option Int := readInt? Int64.minValue.toInt Int64.maxValue.toInt s

end Gazetteer.Text
