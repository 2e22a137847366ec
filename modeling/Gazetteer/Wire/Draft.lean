import Gazetteer.Wire.Entity

/-!
# The wire form of drafts

What callers send. The columns of a merchant stand next to the sets and the favorite mark in one
object, so a merchant draft cannot be a list.

* `tagDraftDecoder`, `pointDraftDecoder`.
* `merchantFieldsDecoder`: the columns alone.
* `merchantDraftDecoder`, `merchantUpdateDecoder`.
* the object of each draft.
-/

set_option autoImplicit false

namespace Gazetteer.Wire

open Gazetteer.Json (Decoder RecordField)

/-! ## Tags and points -/

def tagDraftFields : List (RecordField TagDraft) := [
  .required "tag_name" .text fun v d => { d with name := v },
  .defaulted "alias" .text fun v d => { d with shortName := v },
  .defaulted "class" .text fun v d => { d with category := v },
  .defaulted "remarks" .text fun v d => { d with remarks := v },
  .defaulted "hex_color" .text fun v d => { d with color := v }]

def tagDraftDecoder : Decoder TagDraft := .record tagDraftFields ⟨"", "", "", "", ""⟩

def tagDraftJson (d : TagDraft) : Json :=
  .object [("tag_name", .text d.name), ("alias", .text d.shortName), ("class", .text d.category),
    ("remarks", .text d.remarks), ("hex_color", .text d.color)]

def pointDraftFields : List (RecordField GeoPointDraft) := [
  .defaulted "merchant_id" (.optional .int64) fun v d => { d with merchant := v },
  .defaulted "from" .text fun v d => { d with source := v },
  .required "longitude" .float fun v d => { d with longitude := v },
  .required "latitude" .float fun v d => { d with latitude := v },
  .defaulted "address" .text fun v d => { d with address := v },
  .defaulted "accuracy" smallInt fun v d => { d with accuracy := v },
  .defaulted "metadata" .text fun v d => { d with metadata := v }]

def pointDraftDecoder : Decoder GeoPointDraft :=
  .record pointDraftFields ⟨none, "", 0, 0, "", 0, ""⟩

def pointDraftJson (d : GeoPointDraft) : Json :=
  .object [("merchant_id", Json.ofOption .int d.merchant), ("from", .text d.source),
    ("longitude", floatJson d.longitude), ("latitude", floatJson d.latitude),
    ("address", .text d.address), ("accuracy", .int d.accuracy), ("metadata", .text d.metadata)]

/-! ## Merchants -/

def columnFields : List (RecordField MerchantFields) := [
  .required "title" .text fun v f => { f with title := v },
  .defaulted "description" .text fun v f => { f with description := v },
  .defaulted "phone" .text fun v f => { f with phone := v },
  .defaulted "address" .text fun v f => { f with address := v },
  .defaulted "city" .text fun v f => { f with city := v },
  .defaulted "area" .text fun v f => { f with area := v },
  .defaulted "lng" (.optional .float) fun v f => { f with longitude := v },
  .defaulted "lat" (.optional .float) fun v f => { f with latitude := v },
  .defaulted "geocode_level" .text fun v f => { f with geocodeLevel := v },
  .defaulted "geocode_score" smallInt fun v f => { f with geocodeScore := v },
  .defaulted "geocode_description" .text fun v f => { f with geocodeDescription := v },
  .defaulted "geocode_attempts" smallNat fun v f => { f with geocodeAttempts := v }]

def merchantFieldsDecoder : Decoder MerchantFields := .record columnFields .blank

def columnMembers (f : MerchantFields) : List (String × Json) := [
  ("title", .text f.title), ("description", .text f.description), ("phone", .text f.phone),
  ("address", .text f.address), ("city", .text f.city), ("area", .text f.area),
  ("lng", Json.ofOption floatJson f.longitude), ("lat", Json.ofOption floatJson f.latitude),
  ("geocode_level", .text f.geocodeLevel), ("geocode_score", .int f.geocodeScore),
  ("geocode_description", .text f.geocodeDescription),
  ("geocode_attempts", .int f.geocodeAttempts.toNat)]

def draftSets : List (RecordField MerchantDraft) := [
  .defaulted "tag_ids" (.listOf .int64) fun v d => { d with tagIds := v },
  .defaulted "geo_point_ids" (.listOf .int64) fun v d => { d with pointIds := v },
  .defaulted "is_favorite" .bool fun v d => { d with isFavorite := v }]

def merchantDraftDecoder : Decoder MerchantDraft :=
  .nested draftSets ⟨.blank, [], [], false⟩ columnFields .blank fun f d => { d with fields := f }

def idsJson (ids : List Int) : Json := .list (ids.map .int)

def merchantDraftJson (d : MerchantDraft) : Json :=
  .object (columnMembers d.fields ++ [("tag_ids", idsJson d.tagIds),
    ("geo_point_ids", idsJson d.pointIds), ("is_favorite", .bool d.isFavorite)])

def updateSets : List (RecordField MerchantUpdate) := [
  .defaulted "tag_ids" (.optional (.listOf .int64)) fun v d => { d with tagIds := v },
  .defaulted "geo_point_ids" (.optional (.listOf .int64)) fun v d => { d with pointIds := v },
  .defaulted "is_favorite" (.optional .bool) fun v d => { d with isFavorite := v }]

def merchantUpdateDecoder : Decoder MerchantUpdate :=
  .nested updateSets ⟨.blank, none, none, none⟩ columnFields .blank
    fun f d => { d with fields := f }

def merchantUpdateJson (d : MerchantUpdate) : Json :=
  .object (columnMembers d.fields ++ [("tag_ids", Json.ofOption idsJson d.tagIds),
    ("geo_point_ids", Json.ofOption idsJson d.pointIds),
    ("is_favorite", Json.ofOption .bool d.isFavorite)])

end Gazetteer.Wire
