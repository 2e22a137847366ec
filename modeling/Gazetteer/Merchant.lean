import Gazetteer.GeoPoint
import Gazetteer.Tag

/-!
# Merchants

A merchant is an entry of the directory. Only its scalar columns are stored; its tags, its points,
whether the reader has it among the favorites and what the reader may do are put in when it is read.

* `Merchant`: an entry, with what is put in for the reader.
* `MerchantFields`: the columns that a caller may write, and their check.
* `MerchantDraft`, `MerchantUpdate`: the input of a creation and of an update.
* `Merchant.row`: the entry as it is stored.
-/

set_option autoImplicit false

namespace Gazetteer

/-- An entry of the directory. -/
structure Merchant where
  id : Int
  title : String
  description : String
  phone : String
  address : String
  city : String
  area : String
  longitude : Option Float
  latitude : Option Float
  geocodeLevel : String
  geocodeScore : Int
  geocodeDescription : String
  /-- A 32-bit word, so the attempt behind the largest number is counted as zero. -/
  geocodeAttempts : UInt32
  owner : Int
  tags : List Tag
  points : List GeoPoint
  isFavorite : Bool
  permission : Permission
  created : Timestamp
  updated : Timestamp
  deriving Inhabited

/-- The columns that a caller may write. -/
structure MerchantFields where
  title : String
  description : String
  phone : String
  address : String
  city : String
  area : String
  longitude : Option Float
  latitude : Option Float
  geocodeLevel : String
  geocodeScore : Int
  geocodeDescription : String
  geocodeAttempts : UInt32
  deriving Inhabited

/-- The input of a creation. Tag ids that are not positive are passed over. -/
structure MerchantDraft where
  fields : MerchantFields
  tagIds : List Int
  pointIds : List Int
  isFavorite : Bool
  deriving Inhabited

/-- The input of an update. What is not given stays, and a given list replaces the whole set. -/
structure MerchantUpdate where
  fields : MerchantFields
  tagIds : Option (List Int)
  pointIds : Option (List Int)
  isFavorite : Option Bool
  deriving Inhabited

/-- No text, no place, no score. -/
def MerchantFields.blank : MerchantFields :=
  { title := "", description := "", phone := "", address := "", city := "", area := "",
    longitude := none, latitude := none, geocodeLevel := "", geocodeScore := 0,
    geocodeDescription := "", geocodeAttempts := 0 }

/-- A merchant needs a title, its texts have a greatest length, its place lies on the map and its
score is a percentage. -/
def MerchantFields.check (f : MerchantFields) : Except Failure Unit := do
  require (!Text.isBlankText f.title) (.required "merchant title")
  requireLength "merchant title" f.title 100
  requireLength "phone number" f.phone 20
  requireLength "city" f.city 50
  requireLength "area" f.area 50
  requireLength "geocode level" f.geocodeLevel 50
  requireLength "geocode description" f.geocodeDescription 100
  match f.longitude with
  | some x => requireLongitude x
  | none => pure ()
  match f.latitude with
  | some x => requireLatitude x
  | none => pure ()
  requireBetween "geocode score" 0 100 f.geocodeScore

namespace Merchant

/-- The geocode description of a merchant that nobody has resolved yet. -/
def pending : String := "pending"

/-- Writes the columns. An empty geocode description keeps the one that is there. -/
def apply (m : Merchant) (now : Timestamp) (f : MerchantFields) : Merchant :=
  { m with
    title := f.title, description := f.description, phone := f.phone, address := f.address,
    city := f.city, area := f.area, longitude := f.longitude, latitude := f.latitude,
    geocodeLevel := f.geocodeLevel, geocodeScore := f.geocodeScore,
    geocodeDescription :=
      if f.geocodeDescription.isEmpty then m.geocodeDescription else f.geocodeDescription,
    geocodeAttempts := f.geocodeAttempts, updated := now }

/-- An entry with nothing written yet. -/
def blank (now : Timestamp) (owner : Int) : Merchant :=
  { id := 0, title := "", description := "", phone := "", address := "", city := "", area := "",
    longitude := none, latitude := none, geocodeLevel := "", geocodeScore := 0,
    geocodeDescription := pending, geocodeAttempts := 0, owner := owner, tags := [], points := [],
    isFavorite := false, permission := .read, created := now, updated := now }

/-- A new entry. -/
def ofFields (now : Timestamp) (f : MerchantFields) (owner : Int) : Merchant :=
  (blank now owner).apply now f

/-- The entry without what is put in for a reader. -/
def row (m : Merchant) : Merchant :=
  { m with tags := [], points := [], isFavorite := false, permission := .read }

def isOwnedBy (m : Merchant) (p : Principal) : Bool := m.owner = p.id

end Merchant

end Gazetteer
