import Gazetteer.Store.Engine
import Gazetteer.Store.Table

/-!
# The tables of the directory

Merchants, tags, points, which merchant carries which tag, and who has which merchant among the
favorites. Links between rows are plain ids; nothing here checks that the other row exists.

* `Tables`: all of them.
* the operations on each, with what they answer.
-/

set_option autoImplicit false

namespace Gazetteer

instance : Keyed Merchant := ⟨Merchant.id, fun i m => { m with id := i }, fun _ _ => rfl⟩

instance : Keyed Tag := ⟨Tag.id, fun i t => { t with id := i }, fun _ _ => rfl⟩

instance : Keyed GeoPoint := ⟨GeoPoint.id, fun i p => { p with id := i }, fun _ _ => rfl⟩

/-- A user has a merchant among the favorites. -/
structure Favorite where
  user : Int
  merchant : Int
  deriving DecidableEq, Repr

/-- Everything that is stored. -/
structure Tables where
  merchants : Table Merchant
  tags : Table Tag
  points : Table GeoPoint
  relations : List Relation
  favorites : List Favorite

namespace Tables

def empty : Tables := ⟨.empty, .empty, .empty, [], []⟩

/-! ## Merchants -/

/-- Adds a merchant; the answer is the row under its new id. -/
def insertMerchant (e : Engine) (m : Merchant) (t : Tables) : Merchant × Tables :=
  let row := withKey t.merchants.next m.row
  (row, { t with merchants := t.merchants.insert (e.keptMerchant row) })

/-- Writes over a merchant. -/
def updateMerchant (e : Engine) (m : Merchant) (t : Tables) : Tables :=
  { t with merchants := t.merchants.modify m.id (e.revisedMerchant m) }

def deleteMerchant (id : Int) (t : Tables) : Tables :=
  { t with merchants := t.merchants.erase id }

/-- The texts of a merchant that a search looks into. -/
def merchantTexts (m : Merchant) : List String := [m.title, m.address, m.city, m.area]

/-- The merchants of an owner that a search finds, cut to a page, and how many there are. -/
def findMerchants (e : Engine) (owner : Int) (search : String) (paging : Paging) (t : Tables) :
    Except Failure (List Merchant × Nat) := do
  let found ← e.select search merchantTexts (t.merchants.rows.filter (·.owner = owner))
  return (e.page paging found, found.length)

/-! ## Tags -/

def insertTag (e : Engine) (tag : Tag) (t : Tables) : Tag × Tables :=
  let row := withKey t.tags.next tag
  (row, { t with tags := t.tags.insert (e.keptTag row) })

def updateTag (e : Engine) (tag : Tag) (t : Tables) : Tables :=
  { t with tags := t.tags.modify tag.id (e.revisedTag tag) }

def deleteTag (id : Int) (t : Tables) : Tables := { t with tags := t.tags.erase id }

def tagTexts (tag : Tag) : List String := [tag.name, tag.shortName, tag.category, tag.remarks]

/-- The tags of an owner, and of a category if one is given, that a search finds. -/
def findTags (e : Engine) (owner : Int) (search : String) (category : Option String)
    (paging : Paging) (t : Tables) : Except Failure (List Tag × Nat) := do
  let scope := t.tags.rows.filter fun tag =>
    tag.owner = owner && category.all (tag.category == ·)
  let found ← e.select search tagTexts scope
  return (e.page paging found, found.length)

/-- The tags of an owner whose name is one of the names, blanks around those and letter case
aside. -/
def findTagsByNames (owner : Int) (names : List String) (t : Tables) : List Tag :=
  let wanted := names.map fun n => Text.lowercase (Text.trim n)
  t.tags.rows.filter fun tag => tag.owner = owner && wanted.contains (Text.lowercase tag.name)

/-! ## Which merchant carries which tag -/

def addRelation (r : Relation) (t : Tables) : Tables :=
  { t with relations := t.relations ++ [r] }

/-- The relations of some merchants, in the order they were added. -/
def relationsOf (merchants : List Int) (t : Tables) : List Relation :=
  t.relations.filter fun r => merchants.contains r.merchant

def deleteRelationsOfMerchant (id : Int) (t : Tables) : Tables :=
  { t with relations := t.relations.filter (·.merchant ≠ id) }

def deleteRelationsOfTag (id : Int) (t : Tables) : Tables :=
  { t with relations := t.relations.filter (·.tag ≠ id) }

/-! ## Points -/

def insertPoint (e : Engine) (p : GeoPoint) (t : Tables) : GeoPoint × Tables :=
  let row := withKey t.points.next p
  (row, { t with points := t.points.insert (e.keptPoint row) })

def updatePoint (e : Engine) (p : GeoPoint) (t : Tables) : Tables :=
  { t with points := t.points.modify p.id (e.revisedPoint p) }

def deletePoint (id : Int) (t : Tables) : Tables := { t with points := t.points.erase id }

/-- The first point on record for an address and a source. -/
def pointFor? (address source : String) (t : Tables) : Option GeoPoint :=
  t.points.rows.find? fun p => p.address == address && p.source == source

/-- The points that a merchant holds. -/
def pointsOf (merchant : Int) (t : Tables) : List GeoPoint :=
  t.points.rows.filter (·.merchant = some merchant)

/-- The points that a merchant holds and a search finds. -/
def findPoints (e : Engine) (merchant : Int) (search : String) (paging : Paging) (t : Tables) :
    Except Failure (List GeoPoint × Nat) := do
  let found ← e.select search (fun p => [p.address]) (t.pointsOf merchant)
  return (e.page paging found, found.length)

/-- The points inside a window, at most so many. -/
def findInWindow (e : Engine) (w : Window) (limit : Nat) (t : Tables) : List GeoPoint :=
  e.atMost limit (t.points.rows.filter fun p => w.contains p.longitude p.latitude)

/-- Gives a point to a merchant, or to none. -/
def setPointMerchant (id : Int) (merchant : Option Int) (t : Tables) : Tables :=
  { t with points := t.points.modify id fun p => { p with merchant := merchant } }

def deletePointsOf (merchant : Int) (t : Tables) : Tables :=
  { t with points := t.points.keep (·.merchant ≠ some merchant) }

/-! ## Favorites -/

def isFavorite (user merchant : Int) (t : Tables) : Bool := t.favorites.contains ⟨user, merchant⟩

/-- Adds a favorite, once. -/
def addFavorite (user merchant : Int) (t : Tables) : Tables :=
  if t.isFavorite user merchant then t
  else { t with favorites := t.favorites ++ [⟨user, merchant⟩] }

def removeFavorite (user merchant : Int) (t : Tables) : Tables :=
  { t with favorites := t.favorites.filter (· ≠ ⟨user, merchant⟩) }

def removeFavoritesOf (merchant : Int) (t : Tables) : Tables :=
  { t with favorites := t.favorites.filter (·.merchant ≠ merchant) }

end Tables

end Gazetteer
