import Gazetteer.Text.Hex
import Gazetteer.Text.Split
import Gazetteer.Text.Utf8

/-!
# Percent encoding

The two encodings of text inside an address line: the plain one of path segments and the one of
forms and queries, where a space is written as a plus sign.

* `decode`: bytes with each `%XX` replaced by the byte it names; a percent sign that names none
  stays.
* `encodeForm`: a text as a form value.
* `formPairs`: the names and values of a query.
-/

set_option autoImplicit false

namespace Gazetteer.Text.Percent

/-- The byte named by two hexadecimal digits. -/
def hexByte? (a b : UInt8) : Option UInt8 := do
  let high ← hexValue? (Char.ofNat a.toNat)
  let low ← hexValue? (Char.ofNat b.toNat)
  return UInt8.ofNat (16 * high + low)

/-- Replaces each `%XX` by its byte. -/
def decode : List UInt8 → List UInt8
  | [] => []
  | c :: rest =>
    if c = 0x25 then
      match rest with
      | a :: b :: more =>
        match hexByte? a b with
        | some byte => byte :: decode more
        | none => c :: decode (a :: b :: more)
      | short => c :: decode short
    else c :: decode rest

/-! ## Forms -/

/-- The bytes that a form value leaves as they are. -/
def isUnreserved (b : UInt8) : Bool :=
  let c := Char.ofNat b.toNat
  b < 0x80 && (c.isAlphanum || c == '*' || c == '-' || c == '.' || c == '_')

/-- One byte of a form value. -/
def encodeByte (b : UInt8) : List Char :=
  if b = 0x20 then ['+']
  else if isUnreserved b then [Char.ofNat b.toNat]
  else ['%', hexDigit 'A' (b.toNat / 16), hexDigit 'A' (b.toNat % 16)]

/-- A text as a form value. -/
def encodeForm (s : String) : String := String.ofList ((Utf8.encode s).flatMap encodeByte)

/-- A query made of names and values. -/
def encodeQuery (pairs : List (String × String)) : String :=
  "&".intercalate (pairs.map fun p => encodeForm p.1 ++ "=" ++ encodeForm p.2)

/-- The text of a form name or value; broken UTF-8 becomes U+FFFD. -/
def decodeForm (bytes : List UInt8) : String :=
  Utf8.lossy (decode (bytes.map fun b => if b = 0x2B then 0x20 else b))

/-- The names and values of a query, in order. Empty parts are passed over, and a part without an
equals sign is a name with the empty value. -/
def formPairs (query : String) : List (String × String) :=
  ((splitOn (0x26 : UInt8) (Utf8.encode query)).filter (!·.isEmpty)).map fun part =>
    (decodeForm (part.takeWhile (· != 0x3D)), decodeForm ((part.dropWhile (· != 0x3D)).drop 1))

end Gazetteer.Text.Percent
