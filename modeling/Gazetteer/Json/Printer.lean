import Gazetteer.Json.Number
import Gazetteer.Text.Hex

/-!
# Writing JSON

The compact text of a value: no blanks, members in the order of the object, the shortest digits of
a float. A float that is not finite has no JSON text and is written as `null`.

* `quote`: a text between quotes, with its escapes.
* `print`, `render`: a value as characters, and as a text.
-/

set_option autoImplicit false

namespace Gazetteer.Json

open Gazetteer.Text (hexDigit)

/-- A character inside quotes. Quote, backslash and the control characters are escaped, the usual
ones with a letter; all else stands for itself. -/
def escape (c : Char) : List Char :=
  if c = '"' then ['\\', '"']
  else if c = '\\' then ['\\', '\\']
  else if c = '\x08' then ['\\', 'b']
  else if c = '\t' then ['\\', 't']
  else if c = '\n' then ['\\', 'n']
  else if c = '\x0c' then ['\\', 'f']
  else if c = '\r' then ['\\', 'r']
  else if c.toNat < 0x20 then
    ['\\', 'u', '0', '0', hexDigit 'a' (c.toNat / 16), hexDigit 'a' (c.toNat % 16)]
  else [c]

/-- A text between quotes. -/
def quote (s : String) : List Char := '"' :: (s.toList.flatMap escape ++ ['"'])

/-- A whole number. -/
def printInt (n : Int) : List Char :=
  if n < 0 then '-' :: Nat.toDigits 10 n.natAbs else Nat.toDigits 10 n.natAbs

/-- A float, or `null` when it is not finite. -/
def printFloat (x : Float) : List Char :=
  if Decimal.isFinite x then (Decimal.write x).toList else "null".toList

mutual

/-- The characters of a value. -/
def print : Json → List Char
  | .null => "null".toList
  | .bool b => if b then "true".toList else "false".toList
  | .int n => printInt n
  | .float x => printFloat x
  | .text s => quote s
  | .list items => '[' :: (printItems items ++ [']'])
  | .object members => '{' :: (printMembers members ++ ['}'])

/-- Items with commas between them. -/
def printItems : List Json → List Char
  | [] => []
  | [x] => print x
  | x :: y :: rest => print x ++ ',' :: printItems (y :: rest)

/-- Members with commas between them. -/
def printMembers : List (String × Json) → List Char
  | [] => []
  | [(k, v)] => quote k ++ ':' :: print v
  | (k, v) :: m :: rest => quote k ++ ':' :: (print v ++ ',' :: printMembers (m :: rest))

end

/-- The compact text of a value. -/
def render (j : Json) : String := String.ofList (print j)

end Gazetteer.Json
