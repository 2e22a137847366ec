import Gazetteer.Access
import Gazetteer.Json.Decode
import Gazetteer.Json.Printer
import Gazetteer.Paging
import Gazetteer.Timestamp

/-!
# The wire form of plain data

The number ranges of the interface and the codecs that the records share.

* `smallInt`, `smallNat`, `word`: whole numbers by their width.
* `floatJson`: a float, `null` when it is not finite.
* `permissionDecoder`, `timestampDecoder`, `pagingDecoder`, `principalDecoder`.
-/

set_option autoImplicit false

namespace Gazetteer.Wire

open Gazetteer.Json (Decoder RecordField)

/-! ## Numbers -/

/-- A signed 32-bit number. -/
def smallInt : Decoder Int := .int Int32.minValue.toInt Int32.maxValue.toInt

/-- An unsigned 32-bit number. -/
def smallNat : Decoder UInt32 := fun room s =>
  (Decoder.nat (UInt32.size - 1) room s).map UInt32.ofNat

/-- An unsigned 64-bit number. -/
def word : Decoder Nat := .nat Text.maxWord

/-- A float; one that is not finite has no JSON form but `null`. -/
def floatJson (x : Float) : Json := if Decimal.isFinite x then .float x else .null

/-! ## Small types -/

/-- A permission travels as its level, which is one byte. -/
def permissionDecoder : Decoder Permission := fun room s =>
  (Decoder.nat 255 room s).map Permission.ofLevel

def permissionJson (p : Permission) : Json := .int p.level

/-- A moment travels as its text. -/
def timestampDecoder : Decoder Timestamp := fun room s => do
  match Timestamp.read? (← Decoder.text room s) with
  | some t => return t
  | none => .error .mismatch

def timestampJson (t : Timestamp) : Json := .text t.write

def pagingDecoder : Decoder Paging :=
  .record [
    .defaulted "page" word fun v p => { p with page := v },
    .defaulted "per_page" word fun v p => { p with perPage := v }] .all

def principalDecoder : Decoder Principal :=
  .record [
    .required "id" .int64 fun v p => { p with id := v },
    .required "username" .text fun v p => { p with username := v }] ⟨0, ""⟩

def principalJson (p : Principal) : Json :=
  .object [("id", .int p.id), ("username", .text p.username)]

/-- A page travels with the number of its items and of all rows. -/
def pageJson {α : Type} (item : α → Json) (p : Page α) : Json :=
  .object [("items", .list (p.items.map item)), ("result_count", .int p.items.length),
    ("total_items", .int p.total)]

end Gazetteer.Wire
