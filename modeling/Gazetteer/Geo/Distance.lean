/-!
# Distances on the globe

* `radians`: degrees as radians.
* `haversine`: the great-circle distance of two places in kilometres.
* `Window`: a square in degrees around a place, which bounds a search before distances are measured.
-/

set_option autoImplicit false

namespace Gazetteer

/-- The mean radius of the earth in kilometres. -/
def earthRadius : Float := 6371.0

/-- The kilometres that the window counts for a degree. -/
def kmPerDegree : Float := 111.0

def pi : Float := 3.141592653589793

def radians (degrees : Float) : Float := degrees * pi / 180.0

/-- The great-circle distance in kilometres between two places given by latitude and longitude.
The sine enters squared and the cosine is even, so every angle is taken without its sign. -/
def haversine (lat₁ lon₁ lat₂ lon₂ : Float) : Float :=
  let dLat := (radians (lat₂ - lat₁) / 2.0).abs
  let dLon := (radians (lon₂ - lon₁) / 2.0).abs
  let a := dLat.sin * dLat.sin +
    (radians lat₁).abs.cos * (radians lat₂).abs.cos * dLon.sin * dLon.sin
  let c := 2.0 * Float.atan2 a.sqrt (1.0 - a).sqrt
  earthRadius * c

/-- A square around a place. Its corners lie further away than its sides, and a degree of longitude
is counted like one of latitude, so distances are measured afterwards. -/
structure Window where
  longitude : Float
  latitude : Float
  /-- Half the side, in degrees. -/
  reach : Float

/-- The window of a radius in kilometres. -/
def Window.around (longitude latitude radius : Float) : Window :=
  ⟨longitude, latitude, radius / kmPerDegree⟩

/-- The place lies strictly inside the window. -/
def Window.contains (w : Window) (longitude latitude : Float) : Bool :=
  (longitude - w.longitude).abs < w.reach && (latitude - w.latitude).abs < w.reach

end Gazetteer
