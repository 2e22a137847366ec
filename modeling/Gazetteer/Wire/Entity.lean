import Gazetteer.Merchant
import Gazetteer.Wire.Base

/-!
# The wire form of the stored entities

For each entity the members of its object and the decoder that reads them back.

* `tagJson`, `tagDecoder`; `relationJson`, `relationDecoder`.
* `pointJson`, `pointDecoder`; `coordinateJson`, `coordinateDecoder`.
* `merchantJson`, `merchantDecoder`.
* `resultJson`, `resultDecoder`: the answer of a provider.
-/

set_option autoImplicit false

namespace Gazetteer.Wire

open Gazetteer.Json (Decoder RecordField)

/-! ## Tags -/

def tagMembers (t : Tag) : List (String × Json) := [
  ("id", .int t.id), ("tag_name", .text t.name), ("alias", .text t.shortName),
  ("class", .text t.category), ("remarks", .text t.remarks), ("hex_color", .text t.color),
  ("owner_id", .int t.owner), ("max_permission", permissionJson t.permission),
  ("created", timestampJson t.created), ("updated", timestampJson t.updated)]

def tagJson (t : Tag) : Json := .object (tagMembers t)

def tagFields : List (RecordField Tag) := [
  .required "id" .int64 fun v t => { t with id := v },
  .required "tag_name" .text fun v t => { t with name := v },
  .required "alias" .text fun v t => { t with shortName := v },
  .required "class" .text fun v t => { t with category := v },
  .required "remarks" .text fun v t => { t with remarks := v },
  .required "hex_color" .text fun v t => { t with color := v },
  .required "owner_id" .int64 fun v t => { t with owner := v },
  .defaulted "max_permission" permissionDecoder fun v t => { t with permission := v },
  .required "created" timestampDecoder fun v t => { t with created := v },
  .required "updated" timestampDecoder fun v t => { t with updated := v }]

def tagDecoder : Decoder Tag := .record tagFields default

def relationJson (r : Relation) : Json :=
  .object [("merchant_id", .int r.merchant), ("merchant_tag_id", .int r.tag),
    ("created", timestampJson r.created)]

def relationDecoder : Decoder Relation :=
  .record [
    .required "merchant_id" .int64 fun v r => { r with merchant := v },
    .required "merchant_tag_id" .int64 fun v r => { r with tag := v },
    .required "created" timestampDecoder fun v r => { r with created := v }] default

/-! ## Points -/

def pointMembers (p : GeoPoint) : List (String × Json) := [
  ("id", .int p.id), ("merchant_id", Json.ofOption .int p.merchant), ("from", .text p.source),
  ("longitude", floatJson p.longitude), ("latitude", floatJson p.latitude),
  ("address", .text p.address), ("accuracy", .int p.accuracy), ("metadata", .text p.metadata),
  ("created", timestampJson p.created), ("updated", timestampJson p.updated)]

def pointJson (p : GeoPoint) : Json := .object (pointMembers p)

def pointFields : List (RecordField GeoPoint) := [
  .required "id" .int64 fun v p => { p with id := v },
  .nullable "merchant_id" .int64 fun v p => { p with merchant := v },
  .required "from" .text fun v p => { p with source := v },
  .required "longitude" .float fun v p => { p with longitude := v },
  .required "latitude" .float fun v p => { p with latitude := v },
  .required "address" .text fun v p => { p with address := v },
  .required "accuracy" smallInt fun v p => { p with accuracy := v },
  .required "metadata" .text fun v p => { p with metadata := v },
  .required "created" timestampDecoder fun v p => { p with created := v },
  .required "updated" timestampDecoder fun v p => { p with updated := v }]

def pointDecoder : Decoder GeoPoint := .record pointFields default

def coordinateJson (c : Coordinate) : Json :=
  .object [("longitude", floatJson c.longitude), ("latitude", floatJson c.latitude)]

def coordinateDecoder : Decoder Coordinate :=
  .record [
    .required "longitude" .float fun v c => { c with longitude := v },
    .required "latitude" .float fun v c => { c with latitude := v }] default

/-! ## Merchants -/

def merchantMembers (m : Merchant) : List (String × Json) := [
  ("id", .int m.id), ("title", .text m.title), ("description", .text m.description),
  ("phone", .text m.phone), ("address", .text m.address), ("city", .text m.city),
  ("area", .text m.area), ("lng", Json.ofOption floatJson m.longitude),
  ("lat", Json.ofOption floatJson m.latitude), ("geocode_level", .text m.geocodeLevel),
  ("geocode_score", .int m.geocodeScore), ("geocode_description", .text m.geocodeDescription),
  ("geocode_attempts", .int m.geocodeAttempts.toNat), ("owner_id", .int m.owner),
  ("tags", .list (m.tags.map tagJson)), ("geo_points", .list (m.points.map pointJson)),
  ("is_favorite", .bool m.isFavorite), ("max_permission", permissionJson m.permission),
  ("created", timestampJson m.created), ("updated", timestampJson m.updated)]

def merchantJson (m : Merchant) : Json := .object (merchantMembers m)

def merchantFields : List (RecordField Merchant) := [
  .required "id" .int64 fun v m => { m with id := v },
  .required "title" .text fun v m => { m with title := v },
  .required "description" .text fun v m => { m with description := v },
  .required "phone" .text fun v m => { m with phone := v },
  .required "address" .text fun v m => { m with address := v },
  .required "city" .text fun v m => { m with city := v },
  .required "area" .text fun v m => { m with area := v },
  .nullable "lng" .float fun v m => { m with longitude := v },
  .nullable "lat" .float fun v m => { m with latitude := v },
  .required "geocode_level" .text fun v m => { m with geocodeLevel := v },
  .required "geocode_score" smallInt fun v m => { m with geocodeScore := v },
  .required "geocode_description" .text fun v m => { m with geocodeDescription := v },
  .required "geocode_attempts" smallNat fun v m => { m with geocodeAttempts := v },
  .required "owner_id" .int64 fun v m => { m with owner := v },
  .defaulted "tags" (.listOf tagDecoder) fun v m => { m with tags := v },
  .defaulted "geo_points" (.listOf pointDecoder) fun v m => { m with points := v },
  .defaulted "is_favorite" .bool fun v m => { m with isFavorite := v },
  .defaulted "max_permission" permissionDecoder fun v m => { m with permission := v },
  .required "created" timestampDecoder fun v m => { m with created := v },
  .required "updated" timestampDecoder fun v m => { m with updated := v }]

def merchantDecoder : Decoder Merchant := .record merchantFields default

/-! ## Answers of providers -/

def resultJson (r : GeocodeResult) : Json :=
  .object [("longitude", floatJson r.longitude), ("latitude", floatJson r.latitude),
    ("level", .text r.level), ("score", .int r.score), ("description", .text r.description),
    ("address", .text r.address), ("provider", .text r.provider)]

def resultDecoder : Decoder GeocodeResult :=
  .record [
    .required "longitude" .float fun v r => { r with longitude := v },
    .required "latitude" .float fun v r => { r with latitude := v },
    .required "level" .text fun v r => { r with level := v },
    .required "score" smallInt fun v r => { r with score := v },
    .required "description" .text fun v r => { r with description := v },
    .required "address" .text fun v r => { r with address := v },
    .required "provider" .text fun v r => { r with provider := v }] default

end Gazetteer.Wire
