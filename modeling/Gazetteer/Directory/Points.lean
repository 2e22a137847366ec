import Gazetteer.Directory.Merchants

/-!
# The calls on points

A caller reaches the points of own merchants only. A merchant that does not exist is reported like
one of somebody else, so nothing is learned about it.

* `requireMerchant`: the merchant is one of the caller.
* `accessible`: a point of a merchant of the caller.
* `create`, `find`, `list`, `update`, `delete`.
-/

set_option autoImplicit false

namespace Gazetteer.Points

/-- The merchant is one of the caller. -/
def requireMerchant (who : Principal) (id : Int) (t : Tables) : Except Failure Unit :=
  match Merchants.ownedIn who id t with
  | .ok _ => .ok ()
  | .error (.notFound _) => .error (.accessDenied "merchant")
  | .error e => .error e

/-- A point of a merchant of the caller in the tables. -/
def accessibleIn (who : Principal) (id : Int) (t : Tables) : Except Failure GeoPoint :=
  match t.points.get? id with
  | none => .error (.notFound (.row "geo point" id))
  | some p =>
    match p.merchant with
    | none => .error (.accessDenied "geo point")
    | some merchant => do
      requireMerchant who merchant t
      return p

/-- A point of a merchant of the caller. -/
def accessible (who : Principal) (id : Int) : Action GeoPoint :=
  .check fun d => accessibleIn who id d.tables

/-- The merchant that a new point is for. -/
def requireHolder : Option Int → Except Failure Int
  | some merchant => .ok merchant
  | none => .error (.accessDenied "geo point")

/-- Adds a point to a merchant of the caller. -/
def create (who : Principal) (draft : GeoPointDraft) : Action GeoPoint := do
  .ofExcept draft.check
  let merchant ← .ofExcept (requireHolder draft.merchant)
  .check fun d => requireMerchant who merchant d.tables
  let now ← Action.now
  let p ← .create fun e t => t.insertPoint e (draft.toPoint now)
  .publish ⟨.pointCreated, .point p, who⟩
  return p

/-- A point of a merchant of the caller. -/
def find (who : Principal) (id : Int) : Action GeoPoint := accessible who id

/-- The points of a merchant of the caller that a search finds, page by page. -/
def list (who : Principal) (merchant : Int) (search : String) (paging : Paging) :
    Action (Page GeoPoint) :=
  .check fun d => do
    requireMerchant who merchant d.tables
    let (points, total) ← d.tables.findPoints d.engine merchant search paging
    return ⟨points, total⟩

/-- The caller may move a point to the merchant that a draft names. -/
def requireTarget (who : Principal) (p : GeoPoint) (target : Option Int) (t : Tables) :
    Except Failure Unit :=
  match target with
  | none => .ok ()
  | some merchant => if p.merchant = some merchant then .ok () else requireMerchant who merchant t

/-- Writes over a point of a merchant of the caller; it may go to another one. -/
def update (who : Principal) (id : Int) (draft : GeoPointDraft) : Action GeoPoint := do
  .ofExcept draft.check
  let p ← accessible who id
  .check fun d => requireTarget who p draft.merchant d.tables
  let now ← Action.now
  let p := p.revise now draft
  .change fun e t => t.updatePoint e p
  .publish ⟨.pointUpdated, .point p, who⟩
  return p

/-- Removes a point of a merchant of the caller. -/
def delete (who : Principal) (id : Int) : Action Unit := do
  let p ← accessible who id
  .change fun _ t => t.deletePoint id
  .publish ⟨.pointDeleted, .point p, who⟩

end Gazetteer.Points
