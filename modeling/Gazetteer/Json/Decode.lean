import Gazetteer.Json.Source

/-!
# Decoding JSON

A decoder turns the shape of a text into a value of the kind it wants. It goes through the text in
order and stops at the first fault, so a member of the wrong kind that stands before the place where
the text breaks off is what is reported.

* `Fault`: the text is not JSON, or its data are not of the wanted kind.
* `Decoder`: reads a shape; lists and objects may be nested only so deep.
* `value`, `text`, `bool`, `int`, `float`, `optional`, `listOf`: the decoders of plain data.
* `RecordField`, `record`: records with named members, in an object or in a list by position.
-/

set_option autoImplicit false

namespace Gazetteer.Json

/-- What is wrong with a text. -/
inductive Fault where
  /-- The text is not JSON, or says something no JSON value can hold. -/
  | malformed
  /-- The text is JSON of another kind than wanted. -/
  | mismatch
  deriving DecidableEq, Repr

/-- The words for a text that does not decode. -/
def Fault.reason : Fault → String
  | .malformed => "not a JSON text"
  | .mismatch => "unexpected data"

/-- Reads a shape; the number is how many lists and objects may still be nested. -/
abbrev Decoder (α : Type) := Nat → Source → Except Fault α

/-- How many lists and objects may be nested in a text. -/
def maxNesting : Nat := 127

namespace Numeral

/-- The value of a number, if it has one. -/
def value? : Numeral → Option Json
  | .written literal => literal.value?
  | .known value => some value

end Numeral

namespace Decoder

/-! ## Plain data -/

/-- The fault of a value that is not of the wanted kind. Of a list or an object not even the first
item is read; anything else is read first and may not be JSON. -/
def unwanted {α : Type} : Source → Except Fault α
  | .broken => .error .malformed
  | .text none => .error .malformed
  | .number n => if n.value?.isSome then .error .mismatch else .error .malformed
  | _ => .error .mismatch

def text : Decoder String
  | _, .text (some s) => .ok s
  | _, other => unwanted other

def bool : Decoder Bool
  | _, .bool b => .ok b
  | _, other => unwanted other

/-- A whole number from `low` to `high`. -/
def int (low high : Int) : Decoder Int
  | _, .number n =>
    match n.value? with
    | some (.int i) => if low ≤ i ∧ i ≤ high then .ok i else .error .mismatch
    | some _ => .error .mismatch
    | none => .error .malformed
  | _, other => unwanted other

/-- A whole number that fits a signed 64-bit word. -/
def int64 : Decoder Int := int Int64.minValue.toInt Int64.maxValue.toInt

/-- A whole number from zero to `high`. -/
def nat (high : Nat) : Decoder Nat := fun room s => (int 0 high room s).map Int.toNat

/-- A number; a whole one becomes the nearest float. -/
def float : Decoder Float
  | _, .number n =>
    match n.value? with
    | some (.int i) => .ok (Float.ofInt i)
    | some (.float x) => .ok x
    | some _ => .error .mismatch
    | none => .error .malformed
  | _, other => unwanted other

/-- A value that may be `null`. -/
def optional {α : Type} (d : Decoder α) : Decoder (Option α)
  | _, .null => .ok none
  | room, other => (d room other).map some

/-- Reads items in order, then the end of the list. -/
def items {α : Type} (d : Decoder α) (room : Nat) (closed : Bool) :
    List Source → Except Fault (List α)
  | [] => if closed then .ok [] else .error .malformed
  | x :: rest => do
    let a ← d room x
    return a :: (← items d room closed rest)

/-- A list. -/
def listOf {α : Type} (d : Decoder α) : Decoder (List α)
  | 0, .list _ _ => .error .malformed
  | room + 1, .list xs closed => items d room closed xs
  | _, other => unwanted other

mutual

/-- Any value. Of two members with one name the later counts. -/
def value : Decoder Json
  | _, .null => .ok .null
  | _, .bool b => .ok (.bool b)
  | _, .number n => match n.value? with
    | some v => .ok v
    | none => .error .malformed
  | _, .text (some s) => .ok (.text s)
  | _, .text none => .error .malformed
  | room, .list xs closed =>
    if room = 0 then .error .malformed
    else (values (room - 1) closed xs).map .list
  | room, .object ms closed =>
    if room = 0 then .error .malformed
    else (members (room - 1) closed [] ms).map .object
  | _, .broken => .error .malformed

def values (room : Nat) (closed : Bool) : List Source → Except Fault (List Json)
  | [] => if closed then .ok [] else .error .malformed
  | x :: rest => do
    let a ← value room x
    return a :: (← values room closed rest)

def members (room : Nat) (closed : Bool) (seen : Object) :
    List (Option String × Source) → Except Fault Object
  | [] => if closed then .ok seen else .error .malformed
  | (none, _) :: _ => .error .malformed
  | (some k, v) :: rest => do
    let a ← value room v
    members room closed (insert k a seen) rest

end

/-- An object of any members. -/
def object : Decoder Object
  | 0, .object _ _ => .error .malformed
  | room + 1, .object ms closed => members room closed [] ms
  | _, other => unwanted other

end Decoder

/-! ## Records -/

/-- A member of the record `σ`. -/
structure RecordField (σ : Type) where
  /-- Its name, and other names that it goes by. -/
  name : String
  others : List String
  /-- An object may leave it out. -/
  leftOut : Bool
  /-- A list may end before it. -/
  cutOff : Bool
  /-- Reads the value and puts it into the record. -/
  read : Nat → Source → Except Fault (σ → σ)

namespace RecordField

variable {σ α : Type}

/-- A member that must be there. -/
def required (name : String) (d : Decoder α) (put : α → σ → σ) : RecordField σ :=
  ⟨name, [], false, false, fun room s => (d room s).map put⟩

/-- A member that keeps its initial value when it is not there. -/
def defaulted (name : String) (d : Decoder α) (put : α → σ → σ) : RecordField σ :=
  ⟨name, [], true, true, fun room s => (d room s).map put⟩

/-- A member that an object may leave out and a list may not. -/
def nullable (name : String) (d : Decoder α) (put : Option α → σ → σ) : RecordField σ :=
  ⟨name, [], true, false, fun room s => (Decoder.optional d room s).map put⟩

/-- The member goes by another name too. -/
def orNamed (f : RecordField σ) (name : String) : RecordField σ :=
  { f with others := name :: f.others }

/-- The name is one of the member. -/
def answersTo (f : RecordField σ) (name : String) : Bool := f.name == name || f.others.contains name

end RecordField

namespace Decoder

variable {σ : Type}

/-- Reads the members of an object into a record. A member that no field answers to is passed over,
whatever its value is as long as its text is whole; a field may not be given twice. -/
def readFields (fields : List (RecordField σ)) (room : Nat) (closed : Bool) :
    List String → σ → List (Option String × Source) → Except Fault (List String × σ)
  | seen, acc, [] => if closed then .ok (seen, acc) else .error .malformed
  | _, _, (none, _) :: _ => .error .malformed
  | seen, acc, (some k, v) :: rest =>
    match fields.find? (·.answersTo k) with
    | none => if v.isWhole then readFields fields room closed seen acc rest else .error .malformed
    | some f =>
      if seen.contains f.name then .error .mismatch
      else do
        let put ← f.read room v
        readFields fields room closed (f.name :: seen) (put acc) rest

/-- Reads the items of a list into the fields in their order. -/
def readPositions (room : Nat) (closed : Bool) :
    List (RecordField σ) → σ → List Source → Except Fault σ
  | [], acc, [] => if closed then .ok acc else .error .malformed
  | [], _, _ :: _ => .error .malformed
  | f :: fields, acc, [] =>
    if !closed then .error .malformed
    else if f.cutOff then readPositions room closed fields acc []
    else .error .mismatch
  | f :: fields, acc, x :: rest => do
    let put ← f.read room x
    readPositions room closed fields (put acc) rest

/-- Every field was given or may be left out. -/
def complete (fields : List (RecordField σ)) (seen : List String) : Bool :=
  fields.all fun f => f.leftOut || seen.contains f.name

/-- A record in an object. -/
def recordObject (fields : List (RecordField σ)) (initial : σ) (room : Nat) (closed : Bool)
    (ms : List (Option String × Source)) : Except Fault σ := do
  let (seen, acc) ← readFields fields room closed [] initial ms
  if complete fields seen then .ok acc else .error .mismatch

/-- A record in an object, or in a list by position. -/
def record (fields : List (RecordField σ)) (initial : σ) : Decoder σ
  | 0, .object _ _ => .error .malformed
  | 0, .list _ _ => .error .malformed
  | room + 1, .object ms closed => recordObject fields initial room closed ms
  | room + 1, .list xs closed => readPositions room closed fields initial xs
  | _, other => unwanted other

/-- Reads the members of an object into a record of its own fields, and keeps the other members,
which must be values, for a record inside it. -/
def splitFields (fields : List (RecordField σ)) (room : Nat) (closed : Bool) :
    List String → σ → List (Option String × Source) →
      Except Fault (σ × List (Option String × Source))
  | _, acc, [] => if closed then .ok (acc, []) else .error .malformed
  | _, _, (none, _) :: _ => .error .malformed
  | seen, acc, (some k, v) :: rest =>
    match fields.find? (·.answersTo k) with
    | none => do
      let _ ← value room v
      let (acc, kept) ← splitFields fields room closed seen acc rest
      return (acc, (some k, v) :: kept)
    | some f =>
      if seen.contains f.name then .error .mismatch
      else do
        let put ← f.read room v
        splitFields fields room closed (f.name :: seen) (put acc) rest

/-- A record whose members stand next to those of an inner record. Only an object can hold it. -/
def nested {τ : Type} (outer : List (RecordField σ)) (initial : σ)
    (inner : List (RecordField τ)) (inside : τ) (put : τ → σ → σ) : Decoder σ
  | 0, .object _ _ => .error .malformed
  | room + 1, .object ms closed => do
    let (acc, kept) ← splitFields outer room closed [] initial ms
    let t ← recordObject inner inside room true kept
    return put t acc
  | _, other => unwanted other

/-! ## Whole texts -/

/-- Decodes a text that holds one value and nothing but blanks around it. -/
def ofText {α : Type} (d : Decoder α) (s : String) : Except Fault α :=
  let (source, rest) := Source.read s.toList
  match d maxNesting source with
  | .error e => .error e
  | .ok a => if (Source.skipSpace rest).isEmpty then .ok a else .error .malformed

/-- Decodes the first value of a text, whatever follows it. -/
def ofPrefix {α : Type} (d : Decoder α) (cs : List Char) : Except Fault α :=
  d maxNesting (Source.read cs).1

/-- Decodes a value. -/
def ofJson {α : Type} (d : Decoder α) (j : Json) : Except Fault α := d maxNesting (Source.ofJson j)

end Decoder

end Gazetteer.Json
