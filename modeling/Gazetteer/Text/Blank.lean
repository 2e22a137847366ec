/-!
# Blank characters

What counts as blank everywhere in the directory: the Unicode property White_Space. The ideographic
space and the no-break space are blank, the zero-width space and the byte order mark are not.

* `isBlank`: the property, as a decision.
* `trim`: a text without the blanks around it.
* `isBlankText`: nothing but blanks.
-/

set_option autoImplicit false

namespace Gazetteer.Text

/-- The Unicode property White_Space. -/
def isBlank (c : Char) : Bool :=
  let n := c.toNat
  (9 ≤ n && n ≤ 13) || n == 0x20 || n == 0x85 || n == 0xA0 || n == 0x1680 ||
    (0x2000 ≤ n && n ≤ 0x200A) || n == 0x2028 || n == 0x2029 || n == 0x202F || n == 0x205F ||
    n == 0x3000

/-- Drops the blanks at both ends. -/
def trimChars (cs : List Char) : List Char :=
  ((cs.dropWhile isBlank).reverse.dropWhile isBlank).reverse

/-- The text without the blanks around it. -/
def trim (s : String) : String := String.ofList (trimChars s.toList)

/-- A text that holds nothing but blanks; the empty text is one. -/
def isBlankText (s : String) : Bool := s.toList.all isBlank

end Gazetteer.Text
