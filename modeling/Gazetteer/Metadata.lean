import Gazetteer.GeoPoint
import Gazetteer.Json.Decode
import Gazetteer.Json.Printer
import Gazetteer.Text.Blank

/-!
# The metadata of a point

A point carries the text of a JSON object about where it comes from. The text is read in two ways:
as an object of any members, and as the members that are known by name. Blank text is an object
without members.

* `Metadata`: the members known by name, with their decoder and their text.
* `GeoPoint.metadataObject`, `GeoPoint.typedMetadata`: the two readings.
* `GeoPoint.setMetadata`: writes the members known by name, or clears the text.
-/

set_option autoImplicit false

namespace Gazetteer

open Gazetteer.Json (Decoder RecordField Fault)

/-- The members known by name. -/
structure Metadata where
  provider : Option String
  confidence : Option Float
  placeId : Option String
  placeType : Option String
  category : Option String
  deriving Inhabited

namespace Metadata

def empty : Metadata := ⟨none, none, none, none, none⟩

def fields : List (RecordField Metadata) := [
  .defaulted "provider" (.optional .text) fun v m => { m with provider := v },
  .defaulted "confidence" (.optional .float) fun v m => { m with confidence := v },
  .defaulted "place_id" (.optional .text) fun v m => { m with placeId := v },
  .defaulted "place_type" (.optional .text) fun v m => { m with placeType := v },
  .defaulted "category" (.optional .text) fun v m => { m with category := v }]

def decoder : Decoder Metadata := .record fields empty

/-- A member that is there only when it has a value. -/
def member {α : Type} (name : String) (f : α → Json) : Option α → List (String × Json)
  | some a => [(name, f a)]
  | none => []

/-- The members that are there, in the order of their declaration. -/
def toJson (m : Metadata) : Json :=
  .object (member "provider" .text m.provider ++ member "confidence" .float m.confidence ++
    member "place_id" .text m.placeId ++ member "place_type" .text m.placeType ++
    member "category" .text m.category)

end Metadata

/-- The failure of a text that does not decode. -/
def Failure.ofFault (f : Fault) : Failure := .serialization f.reason

/-- A failure to decode as a failure of the call. -/
def liftFault {α : Type} : Except Fault α → Except Failure α
  | .ok a => .ok a
  | .error f => .error (.ofFault f)

namespace GeoPoint

/-- The metadata as an object of any members. -/
def metadataObject (p : GeoPoint) : Except Failure Json.Object :=
  if Text.isBlankText p.metadata then .ok []
  else liftFault (Decoder.ofText Decoder.object p.metadata)

/-- The metadata known by name. -/
def typedMetadata (p : GeoPoint) : Except Failure Metadata :=
  if Text.isBlankText p.metadata then .ok .empty
  else liftFault (Decoder.ofText Metadata.decoder p.metadata)

/-- Writes the metadata known by name, or clears the text. -/
def setMetadata (p : GeoPoint) (m : Option Metadata) : GeoPoint :=
  { p with metadata := match m with
    | some m => Json.render m.toJson
    | none => "" }

end GeoPoint

end Gazetteer
