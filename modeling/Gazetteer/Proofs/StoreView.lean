import Gazetteer.Proofs.Decisions
import Gazetteer.Proofs.LikeSearch
import Gazetteer.Proofs.SignedZero

/-!
# What both engines keep

The engines keep rows that differ in dates, in the sign of a zero and in the permission on a tag.
Without these a directory is the same whichever engine keeps it, and so is what each operation on
the tables makes of it.

* `bare`: an entity without what the engines may keep differently.
* `Tables.view`, `Directory.view`: the tables and the directory with bare rows.
* `view_…`: each operation, seen through the view.
* `…_alike`: the composed operations on tables with one view.
-/

set_option autoImplicit false

namespace Gazetteer

/-! ## Entities -/

/-- The point without dates, its numbers by their value. -/
def GeoPoint.bare (p : GeoPoint) : GeoPoint :=
  { p with
    longitude := unsigned p.longitude, latitude := unsigned p.latitude,
    created := default, updated := default }

/-- The tag without dates. -/
def Tag.timeless (t : Tag) : Tag := { t with created := default, updated := default }

/-- The tag without dates and without a permission. -/
def Tag.bare (t : Tag) : Tag := { t.timeless with permission := .read }

/-- The merchant without dates, its numbers by their value; the tags in it have no permission. -/
def Merchant.bare (m : Merchant) : Merchant :=
  { m with
    longitude := m.longitude.map unsigned, latitude := m.latitude.map unsigned,
    tags := m.tags.map Tag.bare, points := m.points.map GeoPoint.bare,
    created := default, updated := default }

/-- The relation without its date. -/
def Relation.bare (r : Relation) : Relation := { r with created := default }

def EventPayload.bare : EventPayload → EventPayload
  | .merchant m => .merchant m.bare
  | .tag t => .tag t.timeless
  | .point p => .point p.bare

def Event.bare (e : Event) : Event := { e with payload := e.payload.bare }

namespace Engine

theorem bare_keptPoint (e : Engine) (p : GeoPoint) : (e.keptPoint p).bare = p.bare := by
  simp only [GeoPoint.bare, keptPoint, unsigned_keptFloat]

theorem bare_keptTag (e : Engine) (t : Tag) : (e.keptTag t).bare = t.bare := by
  cases e <;> rfl

theorem map_keptFloat (e : Engine) (x : Option Float) :
    (x.map e.keptFloat).map unsigned = x.map unsigned := by
  cases x with
  | none => rfl
  | some x => exact congrArg some (unsigned_keptFloat e x)

theorem bare_keptMerchant (e : Engine) (m : Merchant) : (e.keptMerchant m).bare = m.bare.row := by
  simp only [Merchant.bare, keptMerchant, Merchant.row, map_keptFloat, List.map_nil]

/-- A row that was written over is the new one, if the owner is the same. -/
theorem bare_revisedMerchant (e : Engine) {new old : Merchant} (h : old.owner = new.owner) :
    (e.revisedMerchant new old).bare = new.bare.row := by
  cases e with
  | memory => exact bare_keptMerchant .memory new
  | sqlite =>
    rw [← bare_keptMerchant .sqlite new, revisedMerchant, h]
    rfl

theorem bare_revisedTag (e : Engine) {new old : Tag} (h : old.owner = new.owner) :
    (e.revisedTag new old).bare = new.bare := by
  cases e with
  | memory => rfl
  | sqlite =>
    rw [revisedTag, h]
    rfl

theorem bare_revisedPoint (e : Engine) (new old : GeoPoint) :
    (e.revisedPoint new old).bare = new.bare := by
  cases e with
  | memory => exact bare_keptPoint .memory new
  | sqlite =>
    rw [← bare_keptPoint .sqlite new]
    rfl

end Engine

/-! ## Rows under a map -/

namespace Table

variable {α : Type} [Keyed α]

theorem ext_rows {t t' : Table α} (rows : t.rows = t'.rows) (last : t.last = t'.last) : t = t' := by
  cases t
  cases t'
  cases rows
  cases last
  rfl

/-- The table with every row mapped; the ids stay. -/
def mapRows (f : α → α) (hf : ∀ r, key (f r) = key r) (t : Table α) : Table α where
  rows := t.rows.map f
  last := t.last
  increasing := by
    rw [List.pairwise_map]
    exact t.increasing.imp (by simp [hf])
  bounded := by
    intro r hr
    obtain ⟨x, hx, rfl⟩ := List.mem_map.1 hr
    rw [hf]
    exact t.bounded x hx

variable (f : α → α) {hf : ∀ r, key (f r) = key r} (t : Table α)

theorem get?_mapRows (hf : ∀ r, key (f r) = key r) (i : Int) :
    (t.mapRows f hf).get? i = (t.get? i).map f := by
  rw [get?, mapRows, List.find?_map, get?]
  congr 2
  funext r
  simp [hf]

theorem mapRows_insert {a b : α} (h : f (withKey t.next a) = withKey t.next b) :
    (t.insert a).mapRows f hf = (t.mapRows f hf).insert b := by
  refine ext_rows ?_ rfl
  show (t.rows ++ [withKey t.next a]).map f = t.rows.map f ++ [withKey t.next b]
  rw [List.map_append, List.map_singleton, h]

theorem mapRows_modify {i : Int} (g g' : α → α)
    (h : ∀ r, t.get? i = some r → f (withKey i (g r)) = withKey i (g' (f r))) :
    (t.modify i g).mapRows f hf = (t.mapRows f hf).modify i g' := by
  refine ext_rows ?_ rfl
  show (t.rows.map (changed i g)).map f = (t.rows.map f).map (changed i g')
  rw [List.map_map, List.map_map]
  refine List.map_congr_left ?_
  intro r hr
  rw [Function.comp_apply, Function.comp_apply, changed, changed, hf]
  split
  · next hk => exact h r (hk ▸ get?_of_mem hr)
  · rfl

theorem mapRows_keep (p p' : α → Bool) (h : ∀ r, p' (f r) = p r) :
    (t.keep p).mapRows f hf = (t.mapRows f hf).keep p' := by
  refine ext_rows ?_ rfl
  show (t.rows.filter p).map f = (t.rows.map f).filter p'
  rw [List.filter_map]
  congr 2
  funext r
  exact (h r).symm

theorem mapRows_erase (i : Int) : (t.erase i).mapRows f hf = (t.mapRows f hf).erase i :=
  mapRows_keep f t _ _ fun r => by rw [hf]

end Table

/-! ## The views -/

/-- The tables with bare rows. -/
def Tables.view (t : Tables) : Tables where
  merchants := t.merchants.mapRows Merchant.bare fun _ => rfl
  tags := t.tags.mapRows Tag.bare fun _ => rfl
  points := t.points.mapRows GeoPoint.bare fun _ => rfl
  relations := t.relations.map Relation.bare
  favorites := t.favorites

/-- The directory with bare rows and bare events, whatever its engine and its clock. -/
def Directory.view (d : Directory) : Directory where
  engine := .memory
  now := default
  tables := d.tables.view
  events := d.events.map Event.bare
  lookups := d.lookups
  queue := d.queue

namespace Tables

variable (e : Engine) (t : Tables)

/-! ## Merchants -/

theorem bare_insertMerchant (m : Merchant) :
    (t.insertMerchant e m).1.bare = withKey t.view.merchants.next m.bare.row := rfl

theorem view_insertMerchant (m : Merchant) :
    (t.insertMerchant e m).2.view =
      { t.view with merchants := t.view.merchants.insert m.bare.row } := by
  have row : Merchant.bare (withKey t.merchants.next (e.keptMerchant
      (withKey t.merchants.next m.row))) = withKey t.merchants.next m.bare.row :=
    congrArg (withKey t.merchants.next) (e.bare_keptMerchant (withKey t.merchants.next m.row))
  exact congrArg (fun rows => { t.view with merchants := rows })
    (Table.mapRows_insert Merchant.bare t.merchants row)

/-- The row that is written over belongs to the owner of the new one. -/
def Replaces (m : Merchant) (t : Tables) : Prop :=
  ∀ old, t.merchants.get? m.id = some old → old.owner = m.owner

variable {t} in
theorem view_updateMerchant {m : Merchant} (h : t.Replaces m) :
    (t.updateMerchant e m).view =
      { t.view with merchants := t.view.merchants.modify m.id fun _ => m.bare.row } := by
  have row : ∀ r, t.merchants.get? m.id = some r →
      Merchant.bare (withKey m.id (e.revisedMerchant m r)) = withKey m.id m.bare.row := by
    intro r hr
    exact congrArg (withKey m.id) (e.bare_revisedMerchant (h r hr))
  exact congrArg (fun rows => { t.view with merchants := rows })
    (Table.mapRows_modify Merchant.bare t.merchants (e.revisedMerchant m) (fun _ => m.bare.row) row)

theorem view_deleteMerchant (id : Int) : (t.deleteMerchant id).view = t.view.deleteMerchant id := by
  exact congrArg (fun rows => { t.view with merchants := rows })
    (Table.mapRows_erase Merchant.bare t.merchants id)

/-! ## Tags -/

theorem view_insertTag (tag : Tag) :
    (t.insertTag e tag).2.view = { t.view with tags := t.view.tags.insert tag.bare } := by
  have row : Tag.bare (withKey t.tags.next (e.keptTag (withKey t.tags.next tag))) =
      withKey t.tags.next tag.bare :=
    congrArg (withKey t.tags.next) (e.bare_keptTag (withKey t.tags.next tag))
  exact congrArg (fun rows => { t.view with tags := rows })
    (Table.mapRows_insert Tag.bare t.tags row)

variable {t} in
theorem view_updateTag {tag : Tag}
    (h : ∀ old, t.tags.get? tag.id = some old → old.owner = tag.owner) :
    (t.updateTag e tag).view =
      { t.view with tags := t.view.tags.modify tag.id fun _ => tag.bare } := by
  have row : ∀ r, t.tags.get? tag.id = some r →
      Tag.bare (withKey tag.id (e.revisedTag tag r)) = withKey tag.id tag.bare := by
    intro r hr
    exact congrArg (withKey tag.id) (e.bare_revisedTag (h r hr))
  exact congrArg (fun rows => { t.view with tags := rows })
    (Table.mapRows_modify Tag.bare t.tags (e.revisedTag tag) (fun _ => tag.bare) row)

theorem view_deleteTag (id : Int) : (t.deleteTag id).view = t.view.deleteTag id := by
  exact congrArg (fun rows => { t.view with tags := rows }) (Table.mapRows_erase Tag.bare t.tags id)

/-! ## Points -/

theorem bare_insertPoint (p : GeoPoint) :
    (t.insertPoint e p).1.bare = withKey t.view.points.next p.bare := rfl

theorem view_insertPoint (p : GeoPoint) :
    (t.insertPoint e p).2.view = { t.view with points := t.view.points.insert p.bare } := by
  have row : GeoPoint.bare (withKey t.points.next (e.keptPoint (withKey t.points.next p))) =
      withKey t.points.next p.bare :=
    congrArg (withKey t.points.next) (e.bare_keptPoint (withKey t.points.next p))
  exact congrArg (fun rows => { t.view with points := rows })
    (Table.mapRows_insert GeoPoint.bare t.points row)

theorem view_updatePoint (p : GeoPoint) :
    (t.updatePoint e p).view =
      { t.view with points := t.view.points.modify p.id fun _ => p.bare } := by
  have row : ∀ r, t.points.get? p.id = some r →
      GeoPoint.bare (withKey p.id (e.revisedPoint p r)) = withKey p.id p.bare := by
    intro r _
    exact congrArg (withKey p.id) (e.bare_revisedPoint p r)
  exact congrArg (fun rows => { t.view with points := rows })
    (Table.mapRows_modify GeoPoint.bare t.points (e.revisedPoint p) (fun _ => p.bare) row)

theorem view_deletePoint (id : Int) : (t.deletePoint id).view = t.view.deletePoint id := by
  exact congrArg (fun rows => { t.view with points := rows })
    (Table.mapRows_erase GeoPoint.bare t.points id)

theorem view_setPointMerchant (id : Int) (merchant : Option Int) :
    (t.setPointMerchant id merchant).view = t.view.setPointMerchant id merchant := by
  let move (p : GeoPoint) : GeoPoint := { p with merchant := merchant }
  exact congrArg (fun rows => { t.view with points := rows })
    (Table.mapRows_modify GeoPoint.bare t.points move move fun _ _ => rfl)

theorem view_deletePointsOf (merchant : Int) :
    (t.deletePointsOf merchant).view = t.view.deletePointsOf merchant := by
  let other (p : GeoPoint) : Bool := p.merchant ≠ some merchant
  exact congrArg (fun rows => { t.view with points := rows })
    (Table.mapRows_keep GeoPoint.bare t.points other other fun _ => rfl)

/-! ## Relations and favorites -/

theorem view_addRelation (r : Relation) : (t.addRelation r).view = t.view.addRelation r.bare := by
  have rows : (t.relations ++ [r]).map Relation.bare = t.relations.map Relation.bare ++ [r.bare] :=
    List.map_append
  exact congrArg (fun rs => { t.view with relations := rs }) rows

theorem view_deleteRelationsOfMerchant (id : Int) :
    (t.deleteRelationsOfMerchant id).view = t.view.deleteRelationsOfMerchant id := by
  have rows : (t.relations.filter (·.merchant ≠ id)).map Relation.bare =
      (t.relations.map Relation.bare).filter (·.merchant ≠ id) := by
    rw [List.filter_map]
    rfl
  exact congrArg (fun rs => { t.view with relations := rs }) rows

theorem view_deleteRelationsOfTag (id : Int) :
    (t.deleteRelationsOfTag id).view = t.view.deleteRelationsOfTag id := by
  have rows : (t.relations.filter (·.tag ≠ id)).map Relation.bare =
      (t.relations.map Relation.bare).filter (·.tag ≠ id) := by
    rw [List.filter_map]
    rfl
  exact congrArg (fun rs => { t.view with relations := rs }) rows

theorem view_addFavorite (user merchant : Int) :
    (t.addFavorite user merchant).view = t.view.addFavorite user merchant := by
  have same : t.view.isFavorite user merchant = t.isFavorite user merchant := rfl
  rw [addFavorite, addFavorite, same]
  split <;> rfl

theorem view_linkTags (now : Timestamp) (merchant : Int) (tags : List Int) :
    (t.linkTags now merchant tags).view = t.view.linkTags default merchant tags := by
  rw [linkTags, linkTags]
  induction tags.filter (0 < ·) generalizing t with
  | nil => rfl
  | cons tag rest ih =>
    rw [List.foldl_cons, List.foldl_cons, ih, view_addRelation]
    rfl

/-! ## What is read -/

theorem view_getMerchant (id : Int) :
    t.view.merchants.get? id = (t.merchants.get? id).map Merchant.bare :=
  Table.get?_mapRows Merchant.bare t.merchants (fun _ => rfl) id

theorem view_getTag (id : Int) : t.view.tags.get? id = (t.tags.get? id).map Tag.bare :=
  Table.get?_mapRows Tag.bare t.tags (fun _ => rfl) id

theorem view_getPoint (id : Int) :
    t.view.points.get? id = (t.points.get? id).map GeoPoint.bare :=
  Table.get?_mapRows GeoPoint.bare t.points (fun _ => rfl) id

theorem view_pointsOf (merchant : Int) :
    t.view.pointsOf merchant = (t.pointsOf merchant).map GeoPoint.bare :=
  List.filter_map

theorem view_pointFor? (address source : String) :
    t.view.pointFor? address source = (t.pointFor? address source).map GeoPoint.bare :=
  List.find?_map

theorem view_tagged (merchants : List Int) :
    t.view.tagged merchants = (t.tagged merchants).map fun x => (x.1, x.2.bare) := by
  have relations : t.view.relationsOf merchants = (t.relationsOf merchants).map Relation.bare :=
    List.filter_map
  rw [tagged, relations, List.filterMap_map, tagged, List.map_filterMap]
  congr 1
  funext r
  rw [Function.comp_apply, view_getTag]
  cases ht : t.tags.get? r.tag <;> simp [Relation.bare, ht]

theorem bare_detailed (who : Principal) (m : Merchant) :
    (t.detailed who m).bare = t.view.detailed who m.bare := by
  have tags : ((t.tagged [m.id]).map Prod.snd).map Tag.bare =
      (t.view.tagged [m.id]).map Prod.snd := by
    rw [view_tagged, List.map_map, List.map_map]
    rfl
  simp only [detailed, Merchant.bare, tags, view_pointsOf]
  rfl

theorem bare_allDetailed (who : Principal) (ms : List Merchant) :
    (t.allDetailed who ms).map Merchant.bare = t.view.allDetailed who (ms.map Merchant.bare) := by
  have ids : (ms.map Merchant.bare).map Merchant.id = ms.map Merchant.id := by
    rw [List.map_map]
    rfl
  have own : ∀ m : Merchant,
      (((t.tagged (ms.map Merchant.id)).filter (·.1 = m.id)).map Prod.snd).map Tag.bare =
        ((t.view.tagged (ms.map Merchant.id)).filter (·.1 = m.id)).map Prod.snd := by
    intro m
    rw [view_tagged, List.filter_map, List.map_map, List.map_map]
    rfl
  rw [allDetailed, allDetailed, ids, List.map_map, List.map_map]
  refine List.map_congr_left ?_
  intro m _
  simp only [Function.comp_apply, Merchant.bare, own, view_pointsOf]
  rfl

theorem view_findTagsByNames (owner : Int) (names : List String) :
    t.view.findTagsByNames owner names = (t.findTagsByNames owner names).map Tag.bare :=
  List.filter_map

end Tables

end Gazetteer
