import Gazetteer.Failure
import Gazetteer.Merchant
import Gazetteer.Paging
import Gazetteer.Store.Like
import Gazetteer.Text.Contains

/-!
# The two engines

The tables are kept in memory or in a database. Both keep the same rows; where they differ, they
differ here.

* `Engine.kept…`: a row as it is read back.
* `Engine.revised…`: a row after it was written over.
* `Engine.select`: the rows that a search finds.
* `Engine.page`, `Engine.atMost`: how a list is cut.
-/

set_option autoImplicit false

namespace Gazetteer

/-- Where the tables are kept. -/
inductive Engine where
  | memory
  | sqlite
  deriving DecidableEq, Inhabited, Repr

/-- Some text contains the search text, upper and lower case being one. Blanks around the search
text do not count, and a blank one is contained in every text. -/
def containsFolded (search : String) (texts : List String) : Bool :=
  let needle := (Text.lowercase (Text.trim search)).toList
  needle.isEmpty || texts.any fun t => Text.occursIn needle (Text.lowercase t).toList

namespace Engine

/-! ## Rows -/

/-- A float as it is read back: the database has one zero only. -/
def keptFloat : Engine → Float → Float
  | .memory, x => x
  | .sqlite, x => if x == 0 then 0 else x

def keptPoint (e : Engine) (p : GeoPoint) : GeoPoint :=
  { p with longitude := e.keptFloat p.longitude, latitude := e.keptFloat p.latitude }

/-- Of a merchant only the row is kept. -/
def keptMerchant (e : Engine) (m : Merchant) : Merchant :=
  { m.row with
    longitude := m.longitude.map e.keptFloat, latitude := m.latitude.map e.keptFloat }

/-- The database has no column for the permission on a tag. -/
def keptTag : Engine → Tag → Tag
  | .memory, t => t
  | .sqlite, t => { t with permission := .read }

/-- A merchant written over: the database changes neither owner nor date of creation. -/
def revisedMerchant (e : Engine) (new old : Merchant) : Merchant :=
  match e with
  | .memory => e.keptMerchant new
  | .sqlite => { e.keptMerchant new with owner := old.owner, created := old.created }

/-- A tag written over: the database changes neither owner nor date of creation. -/
def revisedTag (e : Engine) (new old : Tag) : Tag :=
  match e with
  | .memory => e.keptTag new
  | .sqlite => { e.keptTag new with owner := old.owner, created := old.created }

/-- A point written over: the database does not change the date of creation. -/
def revisedPoint (e : Engine) (new old : GeoPoint) : GeoPoint :=
  match e with
  | .memory => e.keptPoint new
  | .sqlite => { e.keptPoint new with created := old.created }

/-! ## Searching -/

/-- The failure of a search text whose pattern is too long. -/
def tooComplex : Failure := .storage "LIKE or GLOB pattern too complex"

/-- Of the rows in question those that a search finds in one of their texts. The database refuses a
pattern that is too long once there is a row to try it on. -/
def select {α : Type} (e : Engine) (search : String) (texts : α → List String) (rows : List α) :
    Except Failure (List α) :=
  match e with
  | .memory => .ok (rows.filter fun r => containsFolded search (texts r))
  | .sqlite =>
    let pattern := Like.pattern search.toList
    if Like.maxBytes < Like.byteSize pattern && !rows.isEmpty then .error tooComplex
    else
      let shown := Like.visible pattern
      .ok (rows.filter fun r => (texts r).any fun t => Like.covers shown (Like.visible t.toList))

/-! ## Cutting -/

/-- The rows of a page. -/
def page {α : Type} (e : Engine) (p : Paging) (rows : List α) : List α :=
  match e with
  | .memory => p.cut rows
  | .sqlite => p.boundedCut rows

/-- At most so many rows; a limit of zero is none. -/
def atMost {α : Type} (e : Engine) (limit : Nat) (rows : List α) : List α :=
  if limit = 0 then rows
  else
    match e with
    | .memory => rows.take limit
    | .sqlite => Paging.keepSigned (Paging.toSigned limit) rows

end Engine

end Gazetteer
