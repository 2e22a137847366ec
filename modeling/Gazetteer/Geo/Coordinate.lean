import Gazetteer.Failure

/-!
# Coordinates

A place is given by its longitude and latitude in degrees. A value that is not a number lies in no
range.

* `Coordinate`, `Coordinate.make`: a place whose degrees are in range.
* `requireLongitude`, `requireLatitude`: the checks, longitude first wherever both are made.
-/

set_option autoImplicit false

namespace Gazetteer

/-- `x` lies from `low` to `high`. -/
def between (low high x : Float) : Bool := low ≤ x && x ≤ high

def isLongitude (x : Float) : Bool := between (-180) 180 x

def isLatitude (x : Float) : Bool := between (-90) 90 x

def requireLongitude (x : Float) : Except Failure Unit :=
  require (isLongitude x) (.outside "longitude" (-180) 180)

def requireLatitude (x : Float) : Except Failure Unit :=
  require (isLatitude x) (.outside "latitude" (-90) 90)

/-- A place on the map. -/
structure Coordinate where
  longitude : Float
  latitude : Float
  deriving Inhabited

/-- A place whose degrees are in range. -/
def Coordinate.make (longitude latitude : Float) : Except Failure Coordinate := do
  requireLongitude longitude
  requireLatitude latitude
  return ⟨longitude, latitude⟩

end Gazetteer
