import Gazetteer.Text.Utf8

/-!
# Reading comma-separated records

A record is a line of cells with commas between them. A cell may stand between quotes, and then
holds commas and line ends too; a quote inside it is written twice. Text after the closing quote
belongs to the cell, a quote inside an unquoted cell stands for itself, and a quote that is never
closed runs to the end. A line ends with a line feed, a carriage return or both. Lines without any
character are passed over, and records may differ in length.

* `Reader`: where the reader stands and what it has read.
* `rawRecords`: the records of the bytes, with the position at which the reading of each began.
* `Fault`: a cell that is not UTF-8, and its message.
* `records`: the records as text.
-/

set_option autoImplicit false

namespace Gazetteer.Csv

/-- A position: bytes in front of it, and its line counted from one. -/
structure Position where
  byte : Nat
  line : Nat
  deriving DecidableEq

def Position.start : Position := ⟨0, 1⟩

/-- The position behind a byte. -/
def Position.past (p : Position) (b : UInt8) : Position :=
  ⟨p.byte + 1, if b = 0x0A then p.line + 1 else p.line⟩

/-- A record of bytes, and where its reading began. -/
structure RawRecord where
  cells : List (List UInt8)
  began : Position

/-- Where the reader stands. -/
inductive Place where
  /-- In front of a record. -/
  | line
  /-- In front of a cell, behind a comma. -/
  | cell
  /-- Inside an unquoted cell, or behind a closing quote with text after it. -/
  | plain
  /-- Between quotes. -/
  | quoted
  /-- Behind a quote that stands between quotes: it closes them, or is the first of two. -/
  | quote
  deriving DecidableEq

/-- Where the reader stands and what it has read, the last of everything first. -/
structure Reader where
  place : Place
  cell : List UInt8
  cells : List (List UInt8)
  /-- Where the reading of the record began. -/
  began : Position
  /-- Where the reader is now. -/
  here : Position
  done : List RawRecord

namespace Reader

def start : Reader := ⟨.line, [], [], .start, .start, []⟩

/-- The byte belongs to the cell. -/
def keep (r : Reader) (place : Place) (b : UInt8) : Reader :=
  { r with place := place, cell := b :: r.cell }

/-- The cell ends. -/
def endCell (r : Reader) : Reader :=
  { r with place := .cell, cell := [], cells := r.cell.reverse :: r.cells }

/-- The record ends with the cell; the reading of the next one begins here. -/
def endRecord (r : Reader) : Reader :=
  { r with
    place := .line, cell := [], cells := [], began := r.here,
    done := ⟨(r.cell.reverse :: r.cells).reverse, r.began⟩ :: r.done }

def isLineEnd (b : UInt8) : Bool := b == 0x0A || b == 0x0D

/-- The first byte of a cell. -/
def beginCell (r : Reader) (b : UInt8) : Reader :=
  if b = 0x22 then { r with place := .quoted }
  else if b = 0x2C then r.endCell
  else if isLineEnd b then r.endRecord
  else r.keep .plain b

/-- A byte of an unquoted cell. -/
def goOn (r : Reader) (b : UInt8) : Reader :=
  if b = 0x2C then r.endCell
  else if isLineEnd b then r.endRecord
  else r.keep .plain b

/-- What a byte means where the reader stands. -/
def accept (r : Reader) (b : UInt8) : Reader :=
  match r.place with
  | .line => if isLineEnd b then r else r.beginCell b
  | .cell => r.beginCell b
  | .plain => r.goOn b
  | .quoted => if b = 0x22 then { r with place := .quote } else r.keep .quoted b
  | .quote => if b = 0x22 then r.keep .quoted b else r.goOn b

/-- Reads a byte. -/
def feed (r : Reader) (b : UInt8) : Reader := { r with here := r.here.past b }.accept b

/-- The records when the bytes end here. Only in front of a record does none end. -/
def finish (r : Reader) : List RawRecord :=
  (if r.place = .line then r.done else r.endRecord.done).reverse

end Reader

/-- The byte order mark. -/
def mark : List UInt8 := [0xEF, 0xBB, 0xBF]

/-- The records of the bytes. A byte order mark in front does not belong to the first cell. -/
def rawRecords (bytes : List UInt8) : List RawRecord :=
  if mark.isPrefixOf bytes then
    ((bytes.drop 3).foldl Reader.feed { Reader.start with here := ⟨3, 1⟩ }).finish
  else (bytes.foldl Reader.feed .start).finish

/-! ## Text -/

/-- A cell that is not UTF-8. -/
structure Fault where
  /-- The number of the record, counted from zero. -/
  record : Nat
  began : Position
  cell : Nat
  /-- How many bytes of the cell are UTF-8. -/
  valid : Nat

def Fault.message (f : Fault) : String :=
  "CSV parse error: record " ++ toString f.record ++ " (line " ++ toString f.began.line ++
    ", field: " ++ toString f.cell ++ ", byte: " ++ toString f.began.byte ++
    "): invalid utf-8: invalid UTF-8 in field " ++ toString f.cell ++ " near byte index " ++
    toString f.valid

/-- The cells of a record as text, numbered from `cell` on. -/
def decodeCells (record : Nat) (began : Position) (cell : Nat) :
    List (List UInt8) → Except Fault (List String)
  | [] => .ok []
  | bytes :: rest =>
    match Text.Utf8.decode? bytes with
    | none => .error ⟨record, began, cell, Text.Utf8.validLength bytes⟩
    | some s => return s :: (← decodeCells record began (cell + 1) rest)

/-- Records as text, numbered from `record` on. -/
def decodeRecords (record : Nat) : List RawRecord → Except Fault (List (List String))
  | [] => .ok []
  | r :: rest => do
    let cells ← decodeCells record r.began 0 r.cells
    return cells :: (← decodeRecords (record + 1) rest)

/-- The records of the bytes as text. -/
def records (bytes : List UInt8) : Except Fault (List (List String)) :=
  decodeRecords 0 (rawRecords bytes)

end Gazetteer.Csv
