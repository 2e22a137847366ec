/-!
# Writing comma-separated records

A cell is put between quotes when it could be read otherwise without them: when it holds a quote, a
comma or a line end, or is an empty cell alone in its record. Every record ends with a line feed.

* `writeCell`, `writeRecord`, `write`.
-/

set_option autoImplicit false

namespace Gazetteer.Csv

/-- A character that an unquoted cell cannot hold. -/
def needsQuotes (c : Char) : Bool := c == '"' || c == ',' || c == '\r' || c == '\n'

/-- A cell between quotes, its own quotes written twice. -/
def quoteCell (cs : List Char) : List Char :=
  '"' :: (cs.flatMap (fun c => if c = '"' then ['"', '"'] else [c]) ++ ['"'])

/-- A cell. -/
def writeCell (cs : List Char) : List Char := if cs.any needsQuotes then quoteCell cs else cs

/-- The cells of a record with commas between them. -/
def writeCells : List (List Char) → List Char
  | [] => []
  | [cell] => writeCell cell
  | cell :: next :: rest => writeCell cell ++ ',' :: writeCells (next :: rest)

/-- A record and its line end. -/
def writeRecord (cells : List String) : List Char :=
  (if cells = [""] then quoteCell [] else writeCells (cells.map String.toList)) ++ ['\n']

/-- The text of some records. -/
def write (records : List (List String)) : String :=
  String.ofList (records.flatMap writeRecord)

end Gazetteer.Csv
