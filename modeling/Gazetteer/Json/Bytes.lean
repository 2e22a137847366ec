import Gazetteer.Json.Decode
import Gazetteer.Text.Utf8

/-!
# JSON from bytes

Bytes that are not UTF-8 can stand in a text between quotes that nobody reads, and nowhere else. So
they are read as two leading surrogates in a row, which have the same place; behind a backslash they
can stand nowhere, and are read as a control character.

* `ofPieces`: the characters to read for the pieces of the bytes.
* `Decoder.ofBytes`: decodes the first value of the bytes.
-/

set_option autoImplicit false

namespace Gazetteer.Json

/-- What is read for a broken sequence between quotes. -/
def brokenEscape : List Char := "\\ud800\\ud800".toList

/-- The characters to read for the pieces of some bytes; `escaped` says that a backslash takes the
next piece with it. -/
def ofPieces (escaped : Bool) : List (Option Char) → List Char
  | [] => []
  | some c :: rest => c :: ofPieces (c == '\\' && !escaped) rest
  | none :: rest => (if escaped then ['\x00'] else brokenEscape) ++ ofPieces false rest

/-- Decodes the first value of the bytes, whatever follows it. -/
def Decoder.ofBytes {α : Type} (d : Decoder α) (bytes : List UInt8) : Except Fault α :=
  Decoder.ofPrefix d (ofPieces false (Text.Utf8.pieces bytes))

end Gazetteer.Json
