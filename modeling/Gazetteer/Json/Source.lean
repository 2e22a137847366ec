import Gazetteer.Json.Number
import Gazetteer.Text.Hex

/-!
# Reading JSON text

Text is first read for its shape alone, as far as the shape holds: a `Source` is a value with the
place where the text stops being JSON left visible in it. Who reads on decides in the order of the
text whether a member has the wrong kind, or whether the text breaks off, whichever comes first.

* `Source`: the shape of a JSON text.
* `Source.read`: the first value of a text and what follows it.
* `Source.isWhole`: the text of the value does not break off.
* `Source.ofJson`: the shape of a given value.
-/

set_option autoImplicit false

namespace Gazetteer.Json

/-- A number in the text, or one that is already known. -/
inductive Numeral where
  | written (literal : Literal)
  | known (value : Json)

/-- The shape of a JSON text. -/
inductive Source where
  | null
  | bool (b : Bool)
  | number (n : Numeral)
  /-- A text between quotes; `none` when an escape names one half of a surrogate pair. -/
  | text (content : Option String)
  /-- Items, and whether the list is closed after them. -/
  | list (items : List Source) (closed : Bool)
  /-- Members, and whether the object is closed after them. -/
  | object (members : List (Option String × Source)) (closed : Bool)
  /-- Here the text stops being JSON. -/
  | broken

namespace Source

open Gazetteer.Text (hexValue?)

/-! ## Text between quotes -/

/-- A part of a text: a character, or the 16-bit unit of an escape. -/
inductive Piece where
  | char (c : Char)
  | unit (n : Nat)

/-- The value of four hexadecimal digits. -/
def hexUnit? (a b c d : Char) : Option Nat := do
  return ((← hexValue? a) * 16 + (← hexValue? b)) * 256 + ((← hexValue? c) * 16 + (← hexValue? d))

/-- The character that an escape letter stands for. -/
def escaped? (c : Char) : Option Char :=
  if c = '"' ∨ c = '\\' ∨ c = '/' then some c
  else if c = 'b' then some '\x08'
  else if c = 't' then some '\t'
  else if c = 'n' then some '\n'
  else if c = 'f' then some '\x0c'
  else if c = 'r' then some '\r'
  else none

/-- The pieces up to the closing quote and what follows it; `seen` holds the pieces in front, last
first. A control character may not stand for itself. -/
def readPieces (seen : List Piece) : List Char → Option (List Piece × List Char)
  | [] => none
  | '"' :: rest => some (seen.reverse, rest)
  | '\\' :: 'u' :: a :: b :: c :: d :: rest =>
    match hexUnit? a b c d with
    | some n => readPieces (.unit n :: seen) rest
    | none => none
  | '\\' :: e :: rest =>
    match escaped? e with
    | some c => readPieces (.char c :: seen) rest
    | none => none
  | c :: rest => if c.toNat < 0x20 then none else readPieces (.char c :: seen) rest

/-- The characters of some pieces. A leading surrogate must be followed by a trailing one, and a
trailing one has a leading one in front. -/
def assemble : List Piece → Option (List Char)
  | [] => some []
  | .char c :: rest => (assemble rest).map (c :: ·)
  | .unit high :: .unit low :: rest =>
    if 0xD800 ≤ high ∧ high ≤ 0xDBFF then
      if 0xDC00 ≤ low ∧ low ≤ 0xDFFF then
        (assemble rest).map
          (Char.ofNat ((high - 0xD800) * 0x400 + (low - 0xDC00) + 0x10000) :: ·)
      else none
    else if 0xDC00 ≤ high ∧ high ≤ 0xDFFF then none
    else (assemble (.unit low :: rest)).map (Char.ofNat high :: ·)
  | .unit n :: rest =>
    if 0xD800 ≤ n ∧ n ≤ 0xDFFF then none else (assemble rest).map (Char.ofNat n :: ·)

/-- A text after its opening quote. -/
def readText (cs : List Char) : Option (Option String × List Char) :=
  (readPieces [] cs).map fun r => ((assemble r.1).map String.ofList, r.2)

/-! ## Numbers -/

/-- The digits after a point, of which there must be one. -/
def readFraction : List Char → Option (Option (List Char) × List Char)
  | '.' :: rest =>
    let (digits, rest) := Decimal.takeDigits rest
    if digits.isEmpty then none else some (some digits, rest)
  | rest => some (none, rest)

/-- A power of ten, with at least one digit. -/
def readPower : List Char → Option (Option (Bool × List Char) × List Char)
  | [] => some (none, [])
  | e :: rest =>
    if e = 'e' ∨ e = 'E' then
      let (negative, rest) := match rest with
        | '-' :: r => (true, r)
        | '+' :: r => (false, r)
        | r => (false, r)
      let (digits, rest) := Decimal.takeDigits rest
      if digits.isEmpty then none else some (some (negative, digits), rest)
    else some (none, e :: rest)

/-- A number. A zero in front of another digit is refused. -/
def readLiteral (cs : List Char) : Option (Literal × List Char) :=
  let (negative, cs) := match cs with
    | '-' :: r => (true, r)
    | r => (false, r)
  let (whole, rest) := Decimal.takeDigits cs
  if whole.isEmpty || (whole.head? == some '0' && whole.length != 1) then none
  else do
    let (fraction, rest) ← readFraction rest
    let (power, rest) ← readPower rest
    return (⟨negative, whole, fraction, power⟩, rest)

/-! ## Values -/

/-- The blanks of JSON, fewer than those of the directory. -/
def isSpace (c : Char) : Bool := c == ' ' || c == '\n' || c == '\t' || c == '\r'

def skipSpace (cs : List Char) : List Char := cs.dropWhile isSpace

/-- What a reader that found no value leaves: nothing more is read. -/
def nothing : Source × List Char := (.broken, [])

mutual

/-- One value. -/
def readValue : Nat → List Char → Source × List Char
  | 0, _ => nothing
  | fuel + 1, cs =>
    match skipSpace cs with
    | 'n' :: 'u' :: 'l' :: 'l' :: rest => (.null, rest)
    | 't' :: 'r' :: 'u' :: 'e' :: rest => (.bool true, rest)
    | 'f' :: 'a' :: 'l' :: 's' :: 'e' :: rest => (.bool false, rest)
    | '"' :: rest =>
      match readText rest with
      | some (content, rest) => (.text content, rest)
      | none => nothing
    | '[' :: rest =>
      match skipSpace rest with
      | ']' :: rest => (.list [] true, rest)
      | rest =>
        let (items, closed, rest) := readItems fuel rest
        (.list items closed, rest)
    | '{' :: rest =>
      match skipSpace rest with
      | '}' :: rest => (.object [] true, rest)
      | rest =>
        let (members, closed, rest) := readMembers fuel rest
        (.object members closed, rest)
    | rest =>
      match readLiteral rest with
      | some (literal, rest) => (.number (.written literal), rest)
      | none => nothing

/-- Items up to the closing bracket. -/
def readItems : Nat → List Char → List Source × Bool × List Char
  | 0, _ => ([], false, [])
  | fuel + 1, cs =>
    let (item, rest) := readValue fuel cs
    match skipSpace rest with
    | ']' :: rest => ([item], true, rest)
    | ',' :: rest =>
      match skipSpace rest with
      | ']' :: _ => ([item], false, [])
      | rest =>
        let (items, closed, rest) := readItems fuel rest
        (item :: items, closed, rest)
    | _ => ([item], false, [])

/-- Members up to the closing brace. -/
def readMembers : Nat → List Char → List (Option String × Source) × Bool × List Char
  | 0, _ => ([], false, [])
  | fuel + 1, cs =>
    match skipSpace cs with
    | '"' :: rest =>
      match readText rest with
      | none => ([], false, [])
      | some (key, rest) =>
        match skipSpace rest with
        | ':' :: rest =>
          let (value, rest) := readValue fuel rest
          match skipSpace rest with
          | '}' :: rest => ([(key, value)], true, rest)
          | ',' :: rest =>
            let (members, closed, rest) := readMembers fuel rest
            ((key, value) :: members, closed, rest)
          | _ => ([(key, value)], false, [])
        | _ => ([(key, .broken)], false, [])
    | _ => ([], false, [])

end

/-- The first value of a text and what follows it. -/
def read (cs : List Char) : Source × List Char := readValue (2 * cs.length + 2) cs

/-! ## Wholeness -/

mutual

/-- The text of the value does not break off. -/
def isWhole : Source → Bool
  | .broken => false
  | .list items closed => closed && allWhole items
  | .object members closed => closed && allMembersWhole members
  | _ => true

def allWhole : List Source → Bool
  | [] => true
  | x :: rest => isWhole x && allWhole rest

def allMembersWhole : List (Option String × Source) → Bool
  | [] => true
  | (_, v) :: rest => isWhole v && allMembersWhole rest

end

/-! ## The shape of a value -/

mutual

/-- The shape of a given value. -/
def ofJson : Json → Source
  | .null => .null
  | .bool b => .bool b
  | .int n => .number (.known (.int n))
  | .float x => .number (.known (.float x))
  | .text s => .text (some s)
  | .list items => .list (ofItems items) true
  | .object members => .object (ofMembers members) true

def ofItems : List Json → List Source
  | [] => []
  | x :: rest => ofJson x :: ofItems rest

def ofMembers : List (String × Json) → List (Option String × Source)
  | [] => []
  | (k, v) :: rest => (some k, ofJson v) :: ofMembers rest

end

end Source

end Gazetteer.Json
