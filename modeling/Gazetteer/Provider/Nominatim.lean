import Gazetteer.Json.Decode
import Gazetteer.Provider.WebService

/-!
# Nominatim

The search service of OpenStreetMap. It needs no key but wants to know the program that asks. It
answers with a list of places, of which the first one counts.

* `Nominatim.Place`: a place of the answer.
* `Nominatim.service`: the service.
-/

set_option autoImplicit false

namespace Gazetteer.Nominatim

open Gazetteer.Json (Decoder RecordField)

/-- A place of the answer; its coordinates come as text. -/
structure Place where
  latitude : String
  longitude : String
  displayName : String
  kind : String
  /-- How well known the place is, from 0 to 1. -/
  importance : Option Float
  deriving Inhabited

def placeDecoder : Decoder Place :=
  .record [
    .required "lat" .text fun v p => { p with latitude := v },
    .required "lon" .text fun v p => { p with longitude := v },
    .defaulted "display_name" .text fun v p => { p with displayName := v },
    .defaulted "type" .text fun v p => { p with kind := v },
    .defaulted "importance" (.optional .float) fun v p => { p with importance := v }] default

/-- The importance as a score. -/
def score (importance : Option Float) : Int :=
  toScore (importance.getD 0 * 100.0).round.toInt64.toInt

/-- A coordinate from its text. -/
def coordinate (what s : String) : Except LookupFailure Float :=
  match Decimal.read? (Text.trim s) with
  | some x => .ok x
  | none => .error (.malformed ("invalid " ++ what ++ ": " ++ s))

def name : String := "nominatim"

/-- The place as the result for an address. The latitude is read first. -/
def Place.toResult (p : Place) (address : String) : Except LookupFailure GeocodeResult := do
  let latitude ← coordinate "latitude" p.latitude
  let longitude ← coordinate "longitude" p.longitude
  return {
    longitude := longitude, latitude := latitude, level := p.kind, score := score p.importance,
    description := p.displayName, address := address, provider := name }

/-- The result in the text of a reply. -/
def read (address body : String) : Except LookupFailure GeocodeResult :=
  match Decoder.ofText (.listOf placeDecoder) body with
  | .error e => .error (.malformed e.reason)
  | .ok [] => .error (.noResults address)
  | .ok (p :: _) => p.toResult address

/-- The request for an address. -/
def request (userAgent address : String) : Request :=
  { target := "/search?" ++ Text.Percent.encodeQuery
      [("q", address), ("format", "json"), ("limit", "1"), ("addressdetails", "1")],
    userAgent := some userAgent }

/-- The service, asked by a program. -/
def service (userAgent : String) : WebService :=
  { name := name, obstacle := none, request := request userAgent, read := read }

end Gazetteer.Nominatim
