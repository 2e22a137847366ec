import Gazetteer.Geo.Coordinate
import Gazetteer.Geo.Distance
import Gazetteer.Timestamp

/-!
# Geo points

A geo point is a place on record: its address, the source it was recorded for, and the merchant that
holds it, if any. The points of one address and source are also the cache of the lookups.

* `GeoPoint`: a point as it is stored.
* `GeoPointDraft`: what a caller says about a point, and its check.
* `GeocodeResult`: the answer of a provider to an address.
-/

set_option autoImplicit false

namespace Gazetteer

/-- A point as it is stored. -/
structure GeoPoint where
  id : Int
  merchant : Option Int
  source : String
  longitude : Float
  latitude : Float
  address : String
  accuracy : Int
  /-- The text of a JSON object, or nothing. -/
  metadata : String
  created : Timestamp
  updated : Timestamp
  deriving Inhabited

/-- What a caller says about a point. -/
structure GeoPointDraft where
  merchant : Option Int
  source : String
  longitude : Float
  latitude : Float
  address : String
  accuracy : Int
  metadata : String
  deriving Inhabited

/-- The answer of a provider to an address. -/
structure GeocodeResult where
  longitude : Float
  latitude : Float
  /-- How fine the answer is, in the words of the provider. -/
  level : String
  /-- The quality of the answer, from 0 to 100. -/
  score : Int
  description : String
  /-- The address that was asked for. -/
  address : String
  provider : String
  deriving Inhabited

/-- A point lies on the map, its accuracy is a percentage and its source is short. -/
def GeoPointDraft.check (d : GeoPointDraft) : Except Failure Unit := do
  requireLongitude d.longitude
  requireLatitude d.latitude
  requireBetween "accuracy" 0 100 d.accuracy
  requireLength "source" d.source 50

/-- A new point. -/
def GeoPointDraft.toPoint (d : GeoPointDraft) (now : Timestamp) : GeoPoint :=
  { id := 0, merchant := d.merchant, source := d.source, longitude := d.longitude,
    latitude := d.latitude, address := d.address, accuracy := d.accuracy, metadata := d.metadata,
    created := now, updated := now }

/-- The point with everything that the draft says; a draft without a merchant keeps the one that
holds the point. -/
def GeoPoint.revise (p : GeoPoint) (now : Timestamp) (d : GeoPointDraft) : GeoPoint :=
  { p with
    merchant := d.merchant <|> p.merchant, source := d.source, longitude := d.longitude,
    latitude := d.latitude, address := d.address, accuracy := d.accuracy, metadata := d.metadata,
    updated := now }

/-- The distance in kilometres from the point to a place. -/
def GeoPoint.distanceTo (p : GeoPoint) (latitude longitude : Float) : Float :=
  haversine p.latitude p.longitude latitude longitude

end Gazetteer
