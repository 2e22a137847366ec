import Gazetteer.Directory.Geocoding

/-!
# The calls on merchants

A caller works on own merchants only. What a caller sees of a merchant is its row with its tags, its
points and whether it is among the caller's favorites.

* `owned`: a merchant of the caller.
* `create`, `find`, `list`, `update`, `delete`.
* `geocode`: resolves the address of a merchant and writes down the result.
-/

set_option autoImplicit false

namespace Gazetteer

/-! ## What is put in for a reader -/

namespace Tables

/-- The tags of some merchants, in the order they were put on, each beside its merchant. A tag that
is gone is passed over. -/
def tagged (merchants : List Int) (t : Tables) : List (Int × Tag) :=
  (t.relationsOf merchants).filterMap fun r => (t.tags.get? r.tag).map fun tag => (r.merchant, tag)

/-- Those of the merchants that a user has among the favorites. -/
def favoritesAmong (user : Int) (merchants : List Int) (t : Tables) : List Int :=
  merchants.filter (t.isFavorite user)

/-- A merchant as the caller sees it. -/
def detailed (who : Principal) (m : Merchant) (t : Tables) : Merchant :=
  { m with
    tags := (t.tagged [m.id]).map Prod.snd, points := t.pointsOf m.id,
    isFavorite := t.isFavorite who.id m.id, permission := .held (m.isOwnedBy who) }

/-- Merchants as the caller sees them. -/
def allDetailed (who : Principal) (ms : List Merchant) (t : Tables) : List Merchant :=
  let ids := ms.map Merchant.id
  let tagged := t.tagged ids
  let favorites := t.favoritesAmong who.id ids
  ms.map fun m =>
    { m with
      tags := (tagged.filter (·.1 = m.id)).map Prod.snd, points := t.pointsOf m.id,
      isFavorite := favorites.contains m.id, permission := .held (m.isOwnedBy who) }

/-! ## Links -/

/-- Puts tags on a merchant, in order and as often as they are named. Ids that are not positive are
passed over. -/
def linkTags (now : Timestamp) (merchant : Int) (tags : List Int) (t : Tables) : Tables :=
  (tags.filter (0 < ·)).foldl (fun t tag => t.addRelation ⟨merchant, tag, now⟩) t

/-- Gives points to a merchant. -/
def holdPoints (merchant : Int) (points : List Int) (t : Tables) : Tables :=
  points.foldl (fun t point => t.setPointMerchant point (some merchant)) t

/-- Takes from a merchant the points that are not among the given ones. -/
def releasePoints (merchant : Int) (kept : List Int) (t : Tables) : Tables :=
  ((t.pointsOf merchant).filter fun p => !kept.contains p.id).foldl
    (fun t p => t.setPointMerchant p.id none) t

end Tables

namespace Merchants

/-! ## Access -/

/-- A merchant of the caller in the tables. -/
def ownedIn (who : Principal) (id : Int) (t : Tables) : Except Failure Merchant :=
  match t.merchants.get? id with
  | none => .error (.notFound (.row "merchant" id))
  | some m => if m.isOwnedBy who then .ok m else .error (.accessDenied "merchant")

/-- A merchant of the caller. -/
def owned (who : Principal) (id : Int) : Action Merchant := .check fun d => ownedIn who id d.tables

/-- The caller may give a point to the merchant `target`, or to a new one: nobody holds it, or the
target does, or another merchant of the caller, or one that is gone. -/
def linkable (who : Principal) (target : Option Int) (t : Tables) (id : Int) :
    Except Failure Unit :=
  match t.points.get? id with
  | none => .error (.notFound (.row "geo point" id))
  | some p =>
    match p.merchant with
    | none => .ok ()
    | some holder =>
      if some holder = target then .ok ()
      else
        match t.merchants.get? holder with
        | none => .ok ()
        | some m => if m.isOwnedBy who then .ok () else .error (.accessDenied "geo point")

/-- The caller may give all of the points to the merchant. -/
def requireLinkable (who : Principal) (points : List Int) (target : Option Int) : Action Unit :=
  .check fun d => points.forM (linkable who target d.tables)

/-! ## Calls -/

/-- Announces a merchant as the caller sees it, and answers it. -/
def announce (kind : EventKind) (who : Principal) (m : Merchant) : Action Merchant := do
  let seen ← .read fun d => d.tables.detailed who m
  .publish ⟨kind, .merchant seen, who⟩
  return seen

/-- Adds a merchant of the caller. -/
def create (who : Principal) (draft : MerchantDraft) : Action Merchant := do
  .ofExcept draft.fields.check
  requireLinkable who draft.pointIds none
  let now ← Action.now
  let m ← .create fun e t => t.insertMerchant e (.ofFields now draft.fields who.id)
  .change fun _ t => if draft.isFavorite then t.addFavorite who.id m.id else t
  .change fun _ t => t.linkTags now m.id draft.tagIds
  .change fun _ t => t.holdPoints m.id draft.pointIds
  announce .merchantCreated who m

/-- A merchant of the caller, with everything put in. -/
def find (who : Principal) (id : Int) : Action Merchant := do
  let m ← owned who id
  .read fun d => d.tables.detailed who m

/-- The caller's merchants that a search finds, page by page. -/
def list (who : Principal) (search : String) (paging : Paging) : Action (Page Merchant) :=
  .check fun d => do
    let (ms, total) ← d.tables.findMerchants d.engine who.id search paging
    return ⟨d.tables.allDetailed who ms, total⟩

/-- Replaces the tags of a merchant when a list of them is given. -/
def replaceTags (now : Timestamp) (id : Int) (tags : Option (List Int)) : Action Unit :=
  match tags with
  | none => return ()
  | some ids => .change fun _ t => (t.deleteRelationsOfMerchant id).linkTags now id ids

/-- Replaces the points of a merchant when a list of them is given. -/
def replacePoints (id : Int) (points : Option (List Int)) : Action Unit :=
  match points with
  | none => return ()
  | some ids => .change fun _ t => (t.releasePoints id ids).holdPoints id ids

/-- Puts a merchant among the favorites or takes it from there, when either is asked for. -/
def markFavorite (who : Principal) (id : Int) (mark : Option Bool) : Action Unit :=
  match mark with
  | none => return ()
  | some true => .change fun _ t => t.addFavorite who.id id
  | some false => .change fun _ t => t.removeFavorite who.id id

/-- Writes over a merchant of the caller. -/
def update (who : Principal) (id : Int) (u : MerchantUpdate) : Action Merchant := do
  let m ← owned who id
  .ofExcept u.fields.check
  requireLinkable who (u.pointIds.getD []) (some id)
  let now ← Action.now
  let m := m.apply now u.fields
  .change fun e t => t.updateMerchant e m
  replaceTags now id u.tagIds
  replacePoints id u.pointIds
  markFavorite who id u.isFavorite
  announce .merchantUpdated who m

/-- Removes a merchant of the caller with its tags, its points and every favorite mark on it. -/
def delete (who : Principal) (id : Int) : Action Unit := do
  let m ← owned who id
  .change fun _ t =>
    (((t.deleteRelationsOfMerchant id).deletePointsOf id).removeFavoritesOf id).deleteMerchant id
  .publish ⟨.merchantDeleted, .merchant m, who⟩

/-! ## Geocoding -/

/-- The source of the points that are resolved for merchants. -/
def source : String := "merchant"

/-- At most so many characters from the front of a text. -/
def shortened (most : Nat) (s : String) : String := String.ofList (s.toList.take most)

/-- How long a geocode description may be. -/
def maxDescription : Nat := 100

/-- How long a geocode level may be. -/
def maxLevel : Nat := 50

/-- The job of a merchant. -/
def job (id : Int) (address : String) : Job :=
  ⟨some id, address, source, some [("merchant_id", .int id)]⟩

/-- Resolves the address of a merchant, and reads the metadata of the point. -/
def locate (chain : List Provider) (id : Int) (address : String) :
    Action (GeoPoint × Metadata) := do
  let point ← Geocoding.link chain (job id address)
  let origin ← .ofExcept point.typedMetadata
  return (point, origin)

/-- The merchant with the place of a point. -/
def placedAt (m : Merchant) (p : GeoPoint) (origin : Metadata) : Merchant :=
  { m with
    longitude := some p.longitude, latitude := some p.latitude, geocodeScore := p.accuracy,
    geocodeLevel := shortened maxLevel (origin.placeType.getD ""),
    geocodeDescription :=
      shortened maxDescription ("resolved by " ++ origin.provider.getD "cache") }

/-- The merchant with the reason why its address was not resolved. -/
def unresolved (m : Merchant) (e : Failure) : Merchant :=
  { m with geocodeDescription := shortened maxDescription e.message }

/-- Resolves the address of a merchant of the caller and writes the place into its row. Every call
counts as an attempt, with a word that begins again at zero; a failure is written down too. Nothing
is written when a provider crashes. -/
def geocode (chain : Option (List Provider)) (who : Principal) (id : Int) : Action Merchant := do
  let some chain := chain | .fail (.lookup .noProviders)
  let m ← owned who id
  .ofExcept (require (!Text.isBlankText m.address) .noAddress)
  let m := { m with geocodeAttempts := m.geocodeAttempts + 1 }
  match ← Action.attempt (locate chain id m.address) with
  | .ok (point, origin) =>
    let m := placedAt m point origin
    .change fun e t => t.updateMerchant e m
    announce .merchantUpdated who m
  | .error .crash => .fail .crash
  | .error e =>
    .change fun engine t => t.updateMerchant engine (unresolved m e)
    .fail e

end Merchants

end Gazetteer
