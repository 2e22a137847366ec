import Gazetteer.Directory.Points
import Gazetteer.Directory.Tags
import Gazetteer.Http.Extract
import Gazetteer.Http.Route
import Gazetteer.Wire.Draft
import Gazetteer.Wire.Report

/-!
# The server

A request is taken apart first, the caller before everything else and the body last; only then is
anything done. So what is refused leaves the directory as it was.

* `Server`: how the server is set up.
* `prepare`: the call that a request asks for, with all that it needs.
* `serve`: the response to a request, and the directory afterwards.
-/

set_option autoImplicit false

namespace Gazetteer.Http

open Gazetteer.Json (Decoder)

/-- How the server is set up. -/
structure Server where
  /-- The providers, in the order they are asked. -/
  chain : List Provider
  /-- Merchants can be geocoded on demand. -/
  geocodesMerchants : Bool
  importer : Import.Importer
  maxUploadBytes : Nat

/-- The providers for merchants that are geocoded on demand. -/
def Server.merchantChain (s : Server) : Option (List Provider) :=
  if s.geocodesMerchants then some s.chain else none

/-! ## Responses -/

/-- The version of the interface. -/
def version : String := "0.1.0"

def ok (j : Json) : Response := ⟨200, .json j⟩

def created (j : Json) : Response := ⟨201, .json j⟩

/-- The response to a deletion. -/
def deleted (id : Int) : Response := ok (.object [("id", .int id), ("deleted", .bool true)])

def health (s : Server) : Response :=
  ok (.object [("status", .text "ok"), ("version", .text version),
    ("providers", .list (s.chain.map fun p => .text p.name))])

def templateResponse (labels : Import.Labels) : Response :=
  ⟨200, .file "text/csv; charset=utf-8" "attachment; filename=\"merchant_import_template.csv\""
    (Import.template labels)⟩

/-- A point with its distance from a place. -/
def nearbyJson (longitude latitude : Float) (p : GeoPoint) : Json :=
  .object (Wire.pointMembers p ++
    [("distance_km", Wire.floatJson (p.distanceTo latitude longitude))])

/-! ## Geocoding on request -/

/-- An address to resolve; with a source, the result is kept. -/
structure GeocodeRequest where
  address : String
  source : Option String
  metadata : Option Json.Object
  deriving Inhabited

def geocodeRequestDecoder : Decoder GeocodeRequest :=
  .record [
    .required "address" .text fun v r => { r with address := v },
    .defaulted "source" (.optional .text) fun v r => { r with source := v },
    .defaulted "metadata" (.optional .object) fun v r => { r with metadata := v }] default

/-- The source of points that are kept without one being named. -/
def usualSource : String := "api"

/-- Resolves the address of a request. -/
def geocode (s : Server) (r : GeocodeRequest) : Action Response :=
  match r.source with
  | some source => do
    let source := if Text.isBlankText source then usualSource else source
    let p ← Geocoding.save s.chain r.address source r.metadata
    return ok (Wire.pointJson p)
  | none => do
    let result ← Geocoding.resolve s.chain r.address
    return ok (Wire.resultJson result)

/-! ## Calls -/

/-- The radius of a search that names none, in kilometres. -/
def usualRadius : Float := 1.0

/-- The call with all that it needs, taken from the request. -/
def prepare (s : Server) (r : Request) : Call → Except Refusal (Action Response)
  | .health => return return health s
  | .importTemplate => return return templateResponse s.importer.labels
  | .createMerchant => do
    let who ← principal r
    let draft ← jsonBody Wire.merchantDraftDecoder r
    return return created (Wire.merchantJson (← Merchants.create who draft))
  | .listMerchants => do
    let who ← principal r
    let search ← (query r).get? "search"
    let paging ← (query r).paging
    return return ok (Wire.pageJson Wire.merchantJson
      (← Merchants.list who (search.getD "") paging))
  | .importMerchants => do
    let who ← principal r
    let auto ← (query r).read? "auto_geocode" readBool?
    let bytes ← uploadBody s.maxUploadBytes r
    return return ok (Wire.importJson
      (← Import.importBytes s.importer who (auto.getD true) bytes))
  | .findMerchant id => do
    let who ← principal r
    let id ← pathId id
    return return ok (Wire.merchantJson (← Merchants.find who id))
  | .updateMerchant id => do
    let who ← principal r
    let id ← pathId id
    let update ← jsonBody Wire.merchantUpdateDecoder r
    return return ok (Wire.merchantJson (← Merchants.update who id update))
  | .deleteMerchant id => do
    let who ← principal r
    let id ← pathId id
    return do
      Merchants.delete who id
      return deleted id
  | .geocodeMerchant id => do
    let who ← principal r
    let id ← pathId id
    return return ok (Wire.merchantJson (← Merchants.geocode s.merchantChain who id))
  | .createPoint merchant => do
    let who ← principal r
    let merchant ← pathId merchant
    let draft ← jsonBody Wire.pointDraftDecoder r
    return return created (Wire.pointJson
      (← Points.create who { draft with merchant := some merchant }))
  | .listPoints merchant => do
    let who ← principal r
    let merchant ← pathId merchant
    let search ← (query r).get? "search"
    let paging ← (query r).paging
    return return ok (Wire.pageJson Wire.pointJson
      (← Points.list who merchant (search.getD "") paging))
  | .nearby => do
    let _ ← principal r
    let longitude ← (query r).require "lng" Decimal.read?
    let latitude ← (query r).require "lat" Decimal.read?
    let radius ← (query r).read? "radius_km" Decimal.read?
    let limit ← (query r).read? "limit" Text.readWord?
    return do
      let points ← Geocoding.nearby longitude latitude (radius.getD usualRadius) (limit.getD 0)
      return ok (.list (points.map (nearbyJson longitude latitude)))
  | .findPoint id => do
    let who ← principal r
    let id ← pathId id
    return return ok (Wire.pointJson (← Points.find who id))
  | .updatePoint id => do
    let who ← principal r
    let id ← pathId id
    let draft ← jsonBody Wire.pointDraftDecoder r
    return return ok (Wire.pointJson (← Points.update who id draft))
  | .deletePoint id => do
    let who ← principal r
    let id ← pathId id
    return do
      Points.delete who id
      return deleted id
  | .createTag => do
    let who ← principal r
    let draft ← jsonBody Wire.tagDraftDecoder r
    return return created (Wire.tagJson (← Tags.create who draft))
  | .listTags => do
    let who ← principal r
    let search ← (query r).get? "search"
    let category ← (query r).get? "class"
    let paging ← (query r).paging
    return return ok (Wire.pageJson Wire.tagJson
      (← Tags.list who (search.getD "") category paging))
  | .findTag id => do
    let who ← principal r
    let id ← pathId id
    return return ok (Wire.tagJson (← Tags.find who id))
  | .updateTag id => do
    let who ← principal r
    let id ← pathId id
    let draft ← jsonBody Wire.tagDraftDecoder r
    return return ok (Wire.tagJson (← Tags.update who id draft))
  | .deleteTag id => do
    let who ← principal r
    let id ← pathId id
    return do
      Tags.delete who id
      return deleted id
  | .geocode => do
    let _ ← principal r
    let request ← jsonBody geocodeRequestDecoder r
    return geocode s request

/-- The call of a request. A question for the headers of something is a question for the thing. -/
def callOf (r : Request) : Except Refusal Call :=
  match Route.ofPath? r.path with
  | none => .error .noSuchPath
  | some route =>
    match route.call? (if r.method = "HEAD" then "GET" else r.method) with
    | none => .error .noSuchMethod
    | some call => .ok call

/-- Carries out a call; a failure becomes a response. -/
def carryOut (x : Action Response) (d : Directory) : Response × Directory :=
  match x d with
  | (.ok response, d) => (response, d)
  | (.error e, d) => (failureResponse e, d)

/-- The response to a request, and the directory afterwards. -/
def serve (s : Server) (r : Request) (d : Directory) : Response × Directory :=
  let (response, d) :=
    match (callOf r).bind (prepare s r) with
    | .error refusal => (refusal.response, d)
    | .ok action => carryOut action d
  (if r.method = "HEAD" then { response with content := response.content.headersOnly }
    else response, d)

end Gazetteer.Http
