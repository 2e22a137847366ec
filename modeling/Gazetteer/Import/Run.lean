import Gazetteer.Csv.Reader
import Gazetteer.Csv.Writer
import Gazetteer.Directory.Merchants
import Gazetteer.Import.Row

/-!
# Importing merchants

Merchants are added from comma-separated records, one for each row under a header. A row that is
rejected is reported, and the other rows are imported all the same. The addresses of the imported
merchants can be resolved in the background.

* `Importer`: how an import is set up.
* `Report`: what became of the rows.
* `importRecords`, `importBytes`: an import.
* `template`: a file to fill in.
-/

set_option autoImplicit false

namespace Gazetteer.Import

/-- How an import is set up. -/
structure Importer where
  labels : Labels
  /-- There is a queue for the addresses of imported merchants. -/
  background : Bool
  /-- The names of tags that cannot be looked up, and why. -/
  outage : List String → Option String

/-- What became of a row. -/
inductive Outcome where
  | imported (m : Merchant)
  | rejected (problems : List Problem)

/-- What is wrong with a row of the file, counted from one with the header. -/
structure RowError where
  row : Nat
  problem : Problem

/-- What became of the rows. -/
structure Report where
  total : Nat
  rejected : Nat
  errors : List RowError
  items : List Merchant
  geocoding : Bool
  importedBy : String

/-! ## Rows -/

/-- The source of the points that are resolved for imported merchants. -/
def source : String := "csv_import"

/-- The job of an imported merchant. -/
def job (m : Merchant) : Job :=
  ⟨some m.id, m.address, source, some [("import_type", .text "csv"), ("merchant_id", .int m.id)]⟩

/-- The ids of the caller's tags with some names, or the reason why they cannot be looked up. -/
def tagIds (i : Importer) (who : Principal) (names : List String) (t : Tables) :
    Except String (List Int) :=
  if names.isEmpty then .ok []
  else
    match i.outage names with
    | some reason => .error reason
    | none => .ok ((t.findTagsByNames who.id names).map Tag.id)

/-- The draft of a row. -/
def Row.draft (r : Row) (tags : List Int) : MerchantDraft := ⟨r.fields, tags, [], false⟩

/-- Puts the address of an imported merchant into the queue, if it has one. -/
def submitAddress (geocoding : Bool) (m : Merchant) : Action Unit :=
  if geocoding && !Text.isBlankText m.address then .submit (job m) else return ()

/-- Adds the merchant of a row. -/
def importRow (i : Importer) (who : Principal) (geocoding : Bool) (r : Row) : Action Outcome := do
  if !r.problems.isEmpty then return .rejected r.problems
  match ← .read fun d => tagIds i who r.tagNames d.tables with
  | .error reason => return .rejected [.tagsUnresolved r.tagNames reason]
  | .ok tags =>
    match ← Action.attempt (Merchants.create who (r.draft tags)) with
    | .error e => return .rejected [.notAdded r.fields.title e]
    | .ok m =>
      submitAddress geocoding m
      return .imported m

/-- Adds the merchants of some records, one after another. -/
def importRows (i : Importer) (who : Principal) (geocoding : Bool) (columns : List Placed) :
    List (List String) → Action (List Outcome)
  | [] => return []
  | record :: rest => do
    let outcome ← importRow i who geocoding (readRow columns record)
    return outcome :: (← importRows i who geocoding columns rest)

/-! ## The report -/

def Outcome.item? : Outcome → Option Merchant
  | .imported m => some m
  | .rejected _ => none

def Outcome.problems : Outcome → List Problem
  | .imported _ => []
  | .rejected ps => ps

def Outcome.isRejected : Outcome → Bool
  | .imported _ => false
  | .rejected _ => true

/-- The errors of rows that are numbered from `row` on. -/
def errorsFrom (row : Nat) : List Outcome → List RowError
  | [] => []
  | o :: rest => o.problems.map (⟨row, ·⟩) ++ errorsFrom (row + 1) rest

/-- The number of the first row under the header. -/
def firstRow : Nat := 2

/-- The report on some rows. -/
def Report.ofOutcomes (who : Principal) (geocoding : Bool) (outcomes : List Outcome) : Report :=
  { total := outcomes.length, rejected := outcomes.countP Outcome.isRejected,
    errors := errorsFrom firstRow outcomes, items := outcomes.filterMap Outcome.item?,
    geocoding := geocoding, importedBy := who.username }

/-! ## An import -/

/-- Imports records, of which the first one is the header. -/
def importRecords (i : Importer) (who : Principal) (autoGeocode : Bool) :
    List (List String) → Action Report
  | header :: first :: rest => do
    let columns ← .ofExcept (columnsOf i.labels header)
    let geocoding := autoGeocode && i.background
    let outcomes ← importRows i who geocoding columns (first :: rest)
    return .ofOutcomes who geocoding outcomes
  | _ => .fail (.validation .noDataRow)

/-- The records of a file. -/
def recordsOf (bytes : List UInt8) : Except Failure (List (List String)) :=
  match Csv.records bytes with
  | .ok records => .ok records
  | .error f => .error (.csv f.message)

/-- Imports a file. -/
def importBytes (i : Importer) (who : Principal) (autoGeocode : Bool) (bytes : List UInt8) :
    Action Report := do
  let records ← .ofExcept (recordsOf bytes)
  importRecords i who autoGeocode records

/-! ## The template -/

/-- The row that shows how the template is filled in. -/
def sample : List String := [
  "示例商户", "北京市朝阳区建国门外大街1号", "010-12345678", "北京", "朝阳区", "这是一个示例商户",
  "餐饮,服务", "116.397128", "39.916527"]

/-- A file with the labels as its header and one row. -/
def template (labels : Labels) : String := Csv.write [Column.all.map labels, sample]

end Gazetteer.Import
