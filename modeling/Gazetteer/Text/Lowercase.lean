import Gazetteer.Text.CaseRanges

/-!
# Lowercase text

The full lowercase mapping of Unicode, with its two rules that are not one character for one
character: a capital I with a dot becomes two characters, and a capital sigma at the end of a word
becomes a final sigma.

* `lowercase`: the lowercase form of a text.
* `foldAscii`: the coarser mapping that touches the letters A to Z only.
-/

set_option autoImplicit false

namespace Gazetteer.Text

/-! ## Single characters -/

/-- Moves A to Z to a to z and leaves every other character alone. -/
def foldAscii (c : Char) : Char :=
  if 'A' ≤ c ∧ c ≤ 'Z' then Char.ofNat (c.toNat + 32) else c

/-- A code point lies in one of the ranges. -/
def inRanges (ranges : List (Nat × Nat)) (n : Nat) : Bool :=
  ranges.any fun r => r.1 ≤ n && n ≤ r.2

def isCased (c : Char) : Bool := inRanges casedRanges c.toNat

def isCaseIgnorable (c : Char) : Bool := inRanges caseIgnorableRanges c.toNat

/-- The lowercase form of a character that needs no context. -/
def lowerChar (c : Char) : List Char :=
  let n := c.toNat
  if n < 0x80 then [foldAscii c]
  else if n = 0x130 then ['i', '\u0307']
  else
    match lowerRanges.find? fun r => r.first ≤ n && n ≤ r.last && (n - r.first) % r.step == 0 with
    | some r => [Char.ofNat (n + r.shift).toNat]
    | none => [c]

/-! ## The final sigma -/

/-- Past the characters a case context skips, the next one is a cased letter. -/
def leadsToCased (cs : List Char) : Bool :=
  match cs.dropWhile isCaseIgnorable with
  | c :: _ => isCased c
  | [] => false

/-- Lowercases `cs`; `before` holds the characters in front of it, nearest first. A capital sigma
that follows a cased letter and precedes none is final. -/
def lowerAfter (before : List Char) : List Char → List Char
  | [] => []
  | c :: rest =>
    let here :=
      if c = 'Σ' then
        if leadsToCased before && !leadsToCased rest then ['ς'] else ['σ']
      else lowerChar c
    here ++ lowerAfter (c :: before) rest

/-- The lowercase form of a text. -/
def lowercase (s : String) : String := String.ofList (lowerAfter [] s.toList)

end Gazetteer.Text
