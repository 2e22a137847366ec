import Gazetteer.Decimal.Scientific
import Gazetteer.Import.Column
import Gazetteer.Merchant
import Gazetteer.Text.Split

/-!
# The rows of an import

A row is read cell by cell under the columns of the header. Blank cells say nothing. What is wrong
with a cell is reported and does not stop the reading of the row.

* `Problem`: what can be wrong with a row, with its column, its message and the value in question.
* `Row`: what the cells of a row say.
* `columnsOf`: the columns of a header and where they stand.
* `readRow`: the row of a record.
-/

set_option autoImplicit false

namespace Gazetteer.Import

/-! ## What can be wrong -/

/-- The two coordinates of a place. -/
inductive Axis where
  | longitude
  | latitude
  deriving DecidableEq, Repr

/-- What can be wrong with a row. -/
inductive Problem where
  /-- The cell is not a number. -/
  | unreadable (axis : Axis) (cell : String)
  /-- The number lies outside the map. -/
  | outside (axis : Axis) (cell : String)
  | noTitle
  /-- The tags could not be looked up. -/
  | tagsUnresolved (names : List String) (reason : String)
  /-- The merchant could not be added. -/
  | notAdded (title : String) (cause : Failure)

namespace Problem

/-- The column that a problem is about. -/
def column : Problem → String
  | .unreadable .longitude _ | .outside .longitude _ => "lng"
  | .unreadable .latitude _ | .outside .latitude _ => "lat"
  | .noTitle => "title"
  | .tagsUnresolved _ _ => "tags"
  | .notAdded _ _ => "general"

def message : Problem → String
  | .unreadable .longitude _ => "Invalid longitude format"
  | .unreadable .latitude _ => "Invalid latitude format"
  | .outside .longitude _ => "Longitude must be between -180 and 180"
  | .outside .latitude _ => "Latitude must be between -90 and 90"
  | .noTitle => "Merchant title is required"
  | .tagsUnresolved _ reason => "Failed to resolve tags: " ++ reason
  | .notAdded _ cause => "Failed to save merchant: " ++ cause.message

/-- The value in question. -/
def value : Problem → String
  | .unreadable _ cell | .outside _ cell => cell
  | .noTitle => ""
  | .tagsUnresolved names _ => ",".intercalate names
  | .notAdded title _ => title

end Problem

/-! ## The header -/

/-- A column and where it stands. -/
structure Placed where
  index : Nat
  column : Column
  deriving DecidableEq

/-- Drops the byte order marks in front of a text. -/
def dropMarks (s : String) : String := String.ofList (s.toList.dropWhile (· == '\uFEFF'))

/-- The columns that header cells name, from a position on. A column that is named again is passed
over. -/
def placeColumns (labels : Labels) (index : Nat) (seen : List Placed) : List String → List Placed
  | [] => seen
  | cell :: rest =>
    match labels.resolve cell with
    | none => placeColumns labels (index + 1) seen rest
    | some c =>
      if seen.any (·.column = c) then placeColumns labels (index + 1) seen rest
      else placeColumns labels (index + 1) (seen ++ [⟨index, c⟩]) rest

/-- The first cell of a header without byte order marks. -/
def bareHeader : List String → List String
  | [] => []
  | cell :: rest => dropMarks cell :: rest

/-- The columns of a header, of which the title must be one. -/
def columnsOf (labels : Labels) (header : List String) : Except Failure (List Placed) :=
  let columns := placeColumns labels 0 [] (bareHeader header)
  if columns.any (·.column = .title) then .ok columns
  else .error (.validation (.noTitleColumn Column.title.key (labels .title)))

/-! ## A row -/

/-- What the cells of a row say, and what is wrong with them. -/
structure Row where
  fields : MerchantFields
  tagNames : List String
  problems : List Problem

/-- Nothing is said. -/
def Row.blank : Row := ⟨.blank, [], []⟩

/-- The parts of a text between commas, narrow or wide, without blanks around them and without the
blank ones. -/
def splitNames (s : String) : List String :=
  let parts := (Text.splitOn ',' s.toList).flatMap (Text.splitOn '，')
  (parts.map fun cs => String.ofList (Text.trimChars cs)).filter (!·.isEmpty)

/-- A number of a cell, if it lies on the map. -/
def readCoordinate (axis : Axis) (cell : String) : Except Problem Float :=
  match Decimal.read? cell with
  | none => .error (.unreadable axis cell)
  | some x =>
    let onMap := match axis with
      | .longitude => isLongitude x
      | .latitude => isLatitude x
    if onMap then .ok x else .error (.outside axis cell)

namespace Row

/-- What a cell says that is not blank; `cell` has no blanks around it. -/
def say (r : Row) (column : Column) (cell : String) : Row :=
  match column with
  | .title => { r with fields := { r.fields with title := cell } }
  | .address => { r with fields := { r.fields with address := cell } }
  | .phone => { r with fields := { r.fields with phone := cell } }
  | .city => { r with fields := { r.fields with city := cell } }
  | .area => { r with fields := { r.fields with area := cell } }
  | .description => { r with fields := { r.fields with description := cell } }
  | .tags => { r with tagNames := splitNames cell }
  | .longitude =>
    match readCoordinate .longitude cell with
    | .ok x => { r with fields := { r.fields with longitude := some x } }
    | .error p => { r with problems := r.problems ++ [p] }
  | .latitude =>
    match readCoordinate .latitude cell with
    | .ok x => { r with fields := { r.fields with latitude := some x } }
    | .error p => { r with problems := r.problems ++ [p] }

/-- What the cell of a column says. A cell that is not there is like a blank one. -/
def sayCell (record : List String) (r : Row) (p : Placed) : Row :=
  let cell := Text.trim (record[p.index]?.getD "")
  if cell.isEmpty then r else r.say p.column cell

/-- A row without a title is not accepted. -/
def requireTitle (r : Row) : Row :=
  if r.fields.title.isEmpty then { r with problems := r.problems ++ [.noTitle] } else r

end Row

/-- The row of a record. -/
def readRow (columns : List Placed) (record : List String) : Row :=
  (columns.foldl (Row.sayCell record) .blank).requireTitle

end Gazetteer.Import
