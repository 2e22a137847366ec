import Gazetteer.Event.Basic
import Gazetteer.Import.Run
import Gazetteer.Wire.Entity

/-!
# The wire form of reports

* `eventJson`: an event.
* `importJson`: the report of an import.
-/

set_option autoImplicit false

namespace Gazetteer.Wire

/-! ## Events -/

/-- The entity of an event, beside the name of its type. -/
def payloadJson : EventPayload → Json
  | .merchant m => .object [("type", .text "merchant"), ("entity", merchantJson m)]
  | .tag t => .object [("type", .text "merchant_tag"), ("entity", tagJson t)]
  | .point p => .object [("type", .text "geo_point"), ("entity", pointJson p)]

def eventJson (e : Event) : Json :=
  .object [("kind", .text e.kind.label), ("payload", payloadJson e.payload),
    ("doer", principalJson e.doer)]

/-! ## Imports -/

def rowErrorJson (e : Import.RowError) : Json :=
  .object [("row", .int e.row), ("column", .text e.problem.column),
    ("message", .text e.problem.message), ("value", .text e.problem.value)]

def importJson (r : Import.Report) : Json :=
  .object [("total_rows", .int r.total), ("success_count", .int r.items.length),
    ("error_count", .int r.rejected), ("errors", .list (r.errors.map rowErrorJson)),
    ("imported_items", .list (r.items.map merchantJson)),
    ("summary", .object [("total_processed", .int r.total),
      ("successful_imports", .int r.items.length), ("failed_imports", .int r.rejected),
      ("geocoding_enabled", .bool r.geocoding), ("imported_by", .text r.importedBy)])]

end Gazetteer.Wire
