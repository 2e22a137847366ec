/-!
# Hexadecimal digits

* `hexValue?`: the value of a digit, in either case.
* `hexDigit`: the digit of a value, with capital or small letters.
-/

set_option autoImplicit false

namespace Gazetteer.Text

/-- The value of a hexadecimal digit, in either case. -/
def hexValue? (c : Char) : Option Nat :=
  if '0' ≤ c ∧ c ≤ '9' then some (c.toNat - '0'.toNat)
  else if 'a' ≤ c ∧ c ≤ 'f' then some (c.toNat - 'a'.toNat + 10)
  else if 'A' ≤ c ∧ c ≤ 'F' then some (c.toNat - 'A'.toNat + 10)
  else none

/-- The digit of a value below sixteen; `ten` is the letter of the value ten. -/
def hexDigit (ten : Char) (n : Nat) : Char :=
  if n < 10 then Char.ofNat ('0'.toNat + n) else Char.ofNat (ten.toNat + (n - 10))

theorem hexValue?_hexDigit_small : ∀ n < 16, hexValue? (hexDigit 'a' n) = some n := by decide

/-- The bytes that a run of hexadecimal digits spells, two digits for each. -/
def hexBytes? : List Char → Option (List UInt8)
  | [] => some []
  | a :: b :: rest => do
    let high ← hexValue? a
    let low ← hexValue? b
    return UInt8.ofNat (16 * high + low) :: (← hexBytes? rest)
  | [_] => none

end Gazetteer.Text
