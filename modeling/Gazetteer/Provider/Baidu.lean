import Gazetteer.Json.Decode
import Gazetteer.Provider.WebService

/-!
# Baidu Maps

The geocoding service of Baidu Maps. It needs a key. Its answer carries a status of its own, where
only zero is a success.

* `Baidu.Reply`: the answer.
* `Baidu.service`: the service.
-/

set_option autoImplicit false

namespace Gazetteer.Baidu

open Gazetteer.Json (Decoder RecordField)

/-- A place in the answer. -/
structure Place where
  longitude : Float
  latitude : Float
  confidence : Int
  level : String
  deriving Inhabited

/-- The answer. -/
structure Reply where
  status : Int
  message : String
  place : Option Place
  deriving Inhabited

def locationDecoder : Decoder (Float × Float) :=
  .record [
    .required "lng" .float fun v l => (v, l.2),
    .required "lat" .float fun v l => (l.1, v)] (0, 0)

def placeDecoder : Decoder Place :=
  .record [
    .required "location" locationDecoder fun v p => { p with longitude := v.1, latitude := v.2 },
    .defaulted "confidence" .int64 fun v p => { p with confidence := v },
    .defaulted "level" .text fun v p => { p with level := v }] default

/-- The message goes by two names. -/
def replyDecoder : Decoder Reply :=
  .record [
    .required "status" .int64 fun v r => { r with status := v },
    (RecordField.defaulted "message" .text fun v r => { r with message := v }).orNamed "msg",
    .defaulted "result" (.optional placeDecoder) fun v r => { r with place := v }] default

def name : String := "baidu"

/-- The place as the result for an address. -/
def Place.toResult (p : Place) (address : String) : GeocodeResult :=
  { longitude := p.longitude, latitude := p.latitude, level := p.level,
    score := toScore p.confidence, description := address, address := address, provider := name }

/-- The result in the text of a reply. -/
def read (address body : String) : Except LookupFailure GeocodeResult :=
  match Decoder.ofText replyDecoder body with
  | .error e => .error (.malformed e.reason)
  | .ok reply =>
    if reply.status ≠ 0 then .error (.refused reply.status reply.message)
    else
      match reply.place with
      | none => .error (.noResults address)
      | some p => .ok (p.toResult address)

/-- The request for an address. -/
def request (key address : String) : Request :=
  { target := "/geocoding/v3/?" ++ Text.Percent.encodeQuery
      [("address", address), ("output", "json"), ("ak", key)],
    userAgent := none }

/-- The service, asked with a key. Without one nothing is sent. -/
def service (key : String) : WebService :=
  { name := name, obstacle := if key.isEmpty then some (.missingKey "Baidu") else none,
    request := request key, read := read }

end Gazetteer.Baidu
