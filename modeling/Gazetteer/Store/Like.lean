import Gazetteer.Text.Blank
import Gazetteer.Text.Lowercase

/-!
# LIKE patterns

In a pattern a percent sign stands for any run of characters and an underscore for any one
character; a backslash takes the next character literally. Letters are compared without regard to
ASCII case.

* `Like.covers`: a text matches a pattern.
* `Like.escape`: a text as the part of a pattern that matches only it.
* `Like.pattern`: the pattern of a search.
-/

set_option autoImplicit false

namespace Gazetteer.Like

open Gazetteer.Text (foldAscii trimChars)

/-- Two characters are the same up to ASCII case. -/
def same (a b : Char) : Bool := foldAscii a == foldAscii b

/-- Some end of the text satisfies a condition. -/
def someEnd (p : List Char → Bool) : List Char → Bool
  | [] => p []
  | c :: rest => p (c :: rest) || someEnd p rest

/-- The text matches the pattern. A backslash at the end matches nothing. -/
def covers : List Char → List Char → Bool
  | [], text => text.isEmpty
  | '%' :: pattern, text => someEnd (fun rest => covers pattern rest) text
  | '\\' :: c :: pattern, x :: text => same c x && covers pattern text
  | '\\' :: _ :: _, [] => false
  | ['\\'], _ => false
  | '_' :: pattern, _ :: text => covers pattern text
  | '_' :: _, [] => false
  | c :: pattern, x :: text => same c x && covers pattern text
  | _ :: _, [] => false

/-- Puts a backslash in front of every character that a pattern does not take literally. -/
def escape (cs : List Char) : List Char :=
  cs.flatMap fun c => if c = '\\' ∨ c = '%' ∨ c = '_' then ['\\', c] else [c]

/-- The pattern of the texts that contain the search text, blanks around it left out. -/
def pattern (search : List Char) : List Char := '%' :: (escape (trimChars search) ++ ['%'])

/-- The bytes of a pattern. -/
def byteSize (cs : List Char) : Nat := cs.foldr (fun c size => c.utf8Size + size) 0

/-- The longest pattern in bytes that is tried. -/
def maxBytes : Nat := 50000

/-! ## What the database sees of a text

A text ends for the database at its first NUL, and the two noncharacters at the end of the basic
plane are read as the replacement character. -/

/-- The characters that are compared. -/
def visible (cs : List Char) : List Char :=
  (cs.takeWhile (· != '\x00')).map fun c => if c = '\uFFFE' ∨ c = '\uFFFF' then '\uFFFD' else c

end Gazetteer.Like
