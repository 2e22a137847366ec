import Gazetteer.Proofs.Effects
import Gazetteer.Proofs.StoreView

/-!
# Tables that look the same

Two tables with one view are told apart by nothing that a call does: what it decides, what it reads
and what it writes look the same again, whatever the engines and the clocks.

* `enroll_alike`, `rewrite_alike`: what the calls on merchants write.
* `ownedIn_view`, `linkable_view`, ...: what the calls decide.
* `Command.Comparable`: the commands for which the searches agree.
* `findMerchants_bare`, ...: the searches.
-/

set_option autoImplicit false

namespace Gazetteer

namespace Tables

variable {t t' : Tables}

/-! ## What is written -/

theorem view_movePoints (target : Option Int) (ids : List Int) (t : Tables) :
    (t.movePoints target ids).view = t.view.movePoints target ids := by
  induction ids generalizing t with
  | nil => rfl
  | cons i rest ih =>
    have first := view_setPointMerchant t i target
    rw [movePoints, List.foldl_cons, ← movePoints, ih, first]
    rfl

theorem view_retag (now : Timestamp) (id : Int) (tags : Option (List Int)) (t : Tables) :
    (t.retag now id tags).view = t.view.retag default id tags := by
  cases tags with
  | none => rfl
  | some ids => rw [retag, view_linkTags, view_deleteRelationsOfMerchant, retag]

theorem view_repoint (id : Int) (points : Option (List Int)) (t : Tables) :
    (t.repoint id points).view = t.view.repoint id points := by
  cases points with
  | none => rfl
  | some ids =>
    have released : ((t.view.pointsOf id).filter fun p => !ids.contains p.id).map GeoPoint.id =
        ((t.pointsOf id).filter fun p => !ids.contains p.id).map GeoPoint.id := by
      rw [view_pointsOf, List.filter_map, List.map_map]
      rfl
    rw [repoint, holdPoints_eq, releasePoints_eq, view_movePoints, view_movePoints, repoint,
      holdPoints_eq, releasePoints_eq, released]

theorem view_mark (user id : Int) (mark : Option Bool) (t : Tables) :
    (t.mark user id mark).view = t.view.mark user id mark := by
  cases mark with
  | none => rfl
  | some b =>
    cases b with
    | true => exact view_addFavorite t user id
    | false => rfl

theorem view_expel (id : Int) (t : Tables) : (t.expel id).view = t.view.expel id := by
  rw [expel, view_deleteMerchant, removeFavoritesOf, expel]
  have points := view_deletePointsOf (t.deleteRelationsOfMerchant id) id
  rw [view_deleteRelationsOfMerchant] at points
  exact congrArg (fun v : Tables => (v.removeFavoritesOf id).deleteMerchant id) points

theorem insertMerchant_alike (e e' : Engine) (h : t.view = t'.view) {m m' : Merchant}
    (hm : m.bare = m'.bare) :
    (t.insertMerchant e m).1.bare = (t'.insertMerchant e' m').1.bare ∧
      (t.insertMerchant e m).2.view = (t'.insertMerchant e' m').2.view := by
  rw [bare_insertMerchant, bare_insertMerchant, view_insertMerchant, view_insertMerchant, h, hm]
  exact ⟨rfl, rfl⟩

theorem next_alike (h : t.view = t'.view) : t.merchants.next = t'.merchants.next := by
  show t.view.merchants.next = t'.view.merchants.next
  rw [h]

theorem enter_alike (e e' : Engine) (who : Principal) (h : t.view = t'.view)
    (now now' : Timestamp) (draft : MerchantDraft) :
    (t.enter e now who draft).view = (t'.enter e' now' who draft).view := by
  have fields : (Merchant.ofFields now draft.fields who.id).bare =
      (Merchant.ofFields now' draft.fields who.id).bare := rfl
  have inserted := (insertMerchant_alike e e' h fields).2
  have ids : (t.insertMerchant e (.ofFields now draft.fields who.id)).1.id =
      (t'.insertMerchant e' (.ofFields now' draft.fields who.id)).1.id := next_alike h
  rw [enter, enter, ids]
  split
  · rw [view_addFavorite, view_addFavorite, inserted]
  · exact inserted

theorem enroll_alike (e e' : Engine) (who : Principal) (h : t.view = t'.view)
    (now now' : Timestamp) (draft : MerchantDraft) :
    (t.enroll e now who draft).1.bare = (t'.enroll e' now' who draft).1.bare ∧
      (t.enroll e now who draft).2.view = (t'.enroll e' now' who draft).2.view := by
  have fields : (Merchant.ofFields now draft.fields who.id).bare =
      (Merchant.ofFields now' draft.fields who.id).bare := rfl
  refine ⟨(insertMerchant_alike e e' h fields).1, ?_⟩
  rw [enroll_eq, enroll_eq, view_movePoints, view_movePoints, view_linkTags, view_linkTags,
    enter_alike e e' who h now now' draft, next_alike h]

theorem rewrite_alike (e e' : Engine) (who : Principal) (h : t.view = t'.view)
    (now now' : Timestamp) (u : MerchantUpdate)
    {m m' : Merchant} (hm : m.bare = m'.bare) (owner : t.Replaces m) (owner' : t'.Replaces m')
    (id : Int) : (t.rewrite e now who id u m).view = (t'.rewrite e' now' who id u m').view := by
  have ids : m.id = m'.id := by
    show m.bare.id = m'.bare.id
    rw [hm]
  rw [rewrite, rewrite, view_mark, view_mark, view_repoint, view_repoint, view_retag, view_retag,
    view_updateMerchant e owner, view_updateMerchant e' owner', h, hm, ids]

end Tables

/-! ## What is decided -/

section

variable (who : Principal) (t : Tables)

theorem Merchants.ownedIn_view (id : Int) :
    Merchants.ownedIn who id t.view = (Merchants.ownedIn who id t).map Merchant.bare := by
  rw [Merchants.ownedIn, Tables.view_getMerchant, Merchants.ownedIn]
  cases t.merchants.get? id with
  | none => rfl
  | some m =>
    have same : m.bare.isOwnedBy who = m.isOwnedBy who := rfl
    simp only [Option.map_some, same]
    split <;> rfl

theorem Merchants.linkable_view (target : Option Int) (id : Int) :
    Merchants.linkable who target t.view id = Merchants.linkable who target t id := by
  rw [Merchants.linkable, Tables.view_getPoint, Merchants.linkable]
  cases t.points.get? id with
  | none => rfl
  | some p =>
    have same : p.bare.merchant = p.merchant := rfl
    simp only [Option.map_some, same]
    cases p.merchant with
    | none => rfl
    | some holder =>
      simp only [Tables.view_getMerchant]
      cases t.merchants.get? holder <;> rfl

theorem Merchants.admitCreate_view (draft : MerchantDraft) :
    Merchants.admitCreate who draft t.view = Merchants.admitCreate who draft t := by
  rw [Merchants.admitCreate, funext (Merchants.linkable_view who t none), Merchants.admitCreate]

theorem Merchants.admitUpdate_view (id : Int) (u : MerchantUpdate) :
    Merchants.admitUpdate who id u t.view =
      (Merchants.admitUpdate who id u t).map Merchant.bare := by
  rw [Merchants.admitUpdate, Merchants.ownedIn_view,
    funext (Merchants.linkable_view who t (some id)), Merchants.admitUpdate]
  cases Merchants.ownedIn who id t with
  | error f => rfl
  | ok m =>
    simp only [Except.map, ok_bind]
    cases u.fields.check with
    | error f => rfl
    | ok _ =>
      simp only [ok_bind]
      cases (u.pointIds.getD []).forM (Merchants.linkable who (some id) t) <;> rfl

/-- The permission that a caller sees does not depend on the one that is kept. -/
theorem Tags.ownedIn_view (id : Int) :
    Tags.ownedIn who id t.view = (Tags.ownedIn who id t).map Tag.timeless := by
  rw [Tags.ownedIn, Tables.view_getTag, Tags.ownedIn]
  cases t.tags.get? id with
  | none => rfl
  | some tag =>
    have same : tag.bare.isOwnedBy who = tag.isOwnedBy who := rfl
    simp only [Option.map_some, same]
    split <;> rfl

theorem Points.requireMerchant_view (id : Int) :
    Points.requireMerchant who id t.view = Points.requireMerchant who id t := by
  rw [Points.requireMerchant, Merchants.ownedIn_view, Points.requireMerchant]
  cases Merchants.ownedIn who id t with
  | ok m => rfl
  | error f => cases f <;> rfl

theorem Points.accessibleIn_view (id : Int) :
    Points.accessibleIn who id t.view = (Points.accessibleIn who id t).map GeoPoint.bare := by
  rw [Points.accessibleIn, Tables.view_getPoint, Points.accessibleIn]
  cases t.points.get? id with
  | none => rfl
  | some p =>
    have same : p.bare.merchant = p.merchant := rfl
    simp only [Option.map_some, same]
    cases p.merchant with
    | none => rfl
    | some m =>
      simp only [Points.requireMerchant_view]
      cases Points.requireMerchant who m t <;> rfl

end

/-! ## What is searched -/

theorem Paging.cut_map {α β : Type} (p : Paging) (f : α → β) (rows : List α) :
    (p.cut rows).map f = p.cut (rows.map f) := by
  rw [cut, cut]
  cases p.window with
  | none => rfl
  | some w => rw [List.map_take, List.map_drop]

/-- A search whose texts hold only some characters, with a pattern that is not too long. -/
structure Sought (allowed : Char → Prop) (search : String) (texts : List String) : Prop where
  needle : ∀ c ∈ search.toList, allowed c
  texts : ∀ text ∈ texts, ∀ c ∈ text.toList, allowed c
  short : Like.byteSize (Like.pattern search.toList) ≤ Like.maxBytes

theorem sought_iff {allowed : Char → Prop} [DecidablePred allowed] {search : String}
    {texts : List String} : Sought allowed search texts ↔ search.toList.all (allowed ·) ∧
      (texts.all fun text => text.toList.all (allowed ·)) ∧
      Like.byteSize (Like.pattern search.toList) ≤ Like.maxBytes := by
  simp only [List.all_eq_true, decide_eq_true_eq]
  exact ⟨fun h => ⟨h.needle, h.texts, h.short⟩, fun h => ⟨h.1, h.2.1, h.2.2⟩⟩

instance {allowed : Char → Prop} [DecidablePred allowed] (search : String) (texts : List String) :
    Decidable (Sought allowed search texts) := decidable_of_iff _ sought_iff.symm

/-- The characters on which the engines agree. -/
def Agreed (c : Char) : Prop := AsciiCased c ∧ Verbatim c

instance : DecidablePred Agreed := fun c => inferInstanceAs (Decidable (AsciiCased c ∧ Verbatim c))

namespace Engine

variable {α : Type}

/-- The page of a search and the number of rows it finds. -/
def seek (e : Engine) (search : String) (texts : α → List String) (paging : Paging)
    (rows : List α) : Except Failure (List α × Nat) := do
  let found ← e.select search texts rows
  return (e.page paging found, found.length)

/-- A search commutes with a map that leaves the texts alone. -/
theorem seek_map (e : Engine) {search : String} {texts : α → List String} {paging : Paging}
    {rows : List α} {f : α → α} (same : ∀ r, texts (f r) = texts r) (ne : ∀ r, texts r ≠ [])
    (sought : Sought Agreed search (rows.flatMap texts)) (bounds : paging.InWords)
    (few : rows.length ≤ 2 ^ 63) :
    (e.seek search texts paging rows).map (fun x => (x.1.map f, x.2)) =
      memory.seek search texts paging (rows.map f) := by
  have readable : ∀ r ∈ rows, ∀ t ∈ texts r, Searchable t := by
    intro r hr t ht
    exact sought.texts t (List.mem_flatMap.2 ⟨r, hr, ht⟩)
  have found : ((rows.filter fun r => containsFolded search (texts r)).map f) =
      (rows.map f).filter fun r => containsFolded search (texts r) := by
    rw [List.filter_map]
    refine congrArg (List.map f) (List.filter_congr ?_)
    intro r _
    rw [Function.comp_apply, same]
  have fewer : (rows.filter fun r => containsFolded search (texts r)).length ≤ 2 ^ 63 :=
    Nat.le_trans (List.length_filter_le _ rows) few
  rw [seek, select_agrees e sought.needle sought.short ne readable, seek, select]
  simp only [ok_bind]
  rw [page_agrees e bounds fewer, ← found, List.length_map]
  exact congrArg (fun cut => Except.ok (cut, _)) (Paging.cut_map paging f _)

end Engine

namespace Tables

variable (t : Tables)

/-- The texts of all merchants, and of all tags and all points. -/
def allMerchantTexts : List String := t.merchants.rows.flatMap merchantTexts

def allTagTexts : List String := t.tags.rows.flatMap tagTexts

def allPointTexts : List String := t.points.rows.flatMap fun p => [p.address]

end Tables

/-- The command searches in texts on which the engines agree, and its numbers and those of the rows
are words. -/
def Command.Comparable (allowed : Char → Prop) (t : Tables) : Command → Prop
  | .merchants (.list search paging) =>
    Sought allowed search t.allMerchantTexts ∧ paging.InWords ∧ t.merchants.rows.length ≤ 2 ^ 63
  | .tags (.list search _ paging) =>
    Sought allowed search t.allTagTexts ∧ paging.InWords ∧ t.tags.rows.length ≤ 2 ^ 63
  | .points (.list _ search paging) =>
    Sought allowed search t.allPointTexts ∧ paging.InWords ∧ t.points.rows.length ≤ 2 ^ 63
  | .geocoding (.nearby _ _ _ limit) => limit < 2 ^ 64 ∧ t.points.rows.length ≤ 2 ^ 63
  | _ => True

namespace Tables

theorem allMerchantTexts_view (t : Tables) : t.view.allMerchantTexts = t.allMerchantTexts :=
  List.flatMap_map ..

theorem allTagTexts_view (t : Tables) : t.view.allTagTexts = t.allTagTexts :=
  List.flatMap_map ..

theorem allPointTexts_view (t : Tables) : t.view.allPointTexts = t.allPointTexts :=
  List.flatMap_map ..

end Tables

/-- Whether a command can be compared is seen through the view. -/
theorem Command.comparable_view (allowed : Char → Prop) (t : Tables) (c : Command) :
    c.Comparable allowed t.view ↔ c.Comparable allowed t := by
  have merchants : t.view.merchants.rows.length = t.merchants.rows.length := List.length_map _
  have tags : t.view.tags.rows.length = t.tags.rows.length := List.length_map _
  have points : t.view.points.rows.length = t.points.rows.length := List.length_map _
  cases c with
  | merchants c =>
    cases c with
    | list search paging => rw [Comparable, t.allMerchantTexts_view, merchants, Comparable]
    | _ => exact Iff.rfl
  | tags c =>
    cases c with
    | list search category paging => rw [Comparable, t.allTagTexts_view, tags, Comparable]
    | _ => exact Iff.rfl
  | points c =>
    cases c with
    | list merchant search paging => rw [Comparable, t.allPointTexts_view, points, Comparable]
    | _ => exact Iff.rfl
  | geocoding c =>
    cases c with
    | nearby longitude latitude radius limit => rw [Comparable, points, Comparable]
    | _ => exact Iff.rfl
  | importFile c => exact Iff.rfl

/-- A search in fewer rows is sought in fewer texts. -/
theorem Sought.filter {α : Type} {allowed : Char → Prop} {search : String}
    {texts : α → List String} {rows : List α} (h : Sought allowed search (rows.flatMap texts))
    (p : α → Bool) : Sought allowed search ((rows.filter p).flatMap texts) where
  needle := h.needle
  short := h.short
  texts := by
    intro text ht
    obtain ⟨r, hr, ht⟩ := List.mem_flatMap.1 ht
    exact h.texts text (List.mem_flatMap.2 ⟨r, (List.mem_filter.1 hr).1, ht⟩)

namespace Tables

variable (e : Engine) (t : Tables)

theorem findMerchants_bare {owner : Int} {search : String} {paging : Paging}
    (sought : Sought Agreed search t.allMerchantTexts) (bounds : paging.InWords)
    (few : t.merchants.rows.length ≤ 2 ^ 63) :
    (t.findMerchants e owner search paging).map (fun x => (x.1.map Merchant.bare, x.2)) =
      t.view.findMerchants .memory owner search paging := by
  have scope : t.view.merchants.rows.filter (·.owner = owner) =
      (t.merchants.rows.filter (·.owner = owner)).map Merchant.bare := List.filter_map
  have fewer := Nat.le_trans (List.length_filter_le (·.owner = owner) t.merchants.rows) few
  have found := e.seek_map (f := Merchant.bare) (fun _ => rfl) (fun _ => List.cons_ne_nil _ _)
    (sought.filter (·.owner = owner)) bounds fewer
  rw [← scope] at found
  exact found

theorem findTags_bare {owner : Int} {search : String} {category : Option String} {paging : Paging}
    (sought : Sought Agreed search t.allTagTexts) (bounds : paging.InWords)
    (few : t.tags.rows.length ≤ 2 ^ 63) :
    (t.findTags e owner search category paging).map (fun x => (x.1.map Tag.bare, x.2)) =
      t.view.findTags .memory owner search category paging := by
  let inScope (tag : Tag) : Bool := tag.owner = owner && category.all (tag.category == ·)
  have scope : t.view.tags.rows.filter inScope = (t.tags.rows.filter inScope).map Tag.bare :=
    List.filter_map
  have fewer := Nat.le_trans (List.length_filter_le inScope t.tags.rows) few
  have found := e.seek_map (f := Tag.bare) (fun _ => rfl) (fun _ => List.cons_ne_nil _ _)
    (sought.filter inScope) bounds fewer
  rw [← scope] at found
  exact found

theorem findPoints_bare {merchant : Int} {search : String} {paging : Paging}
    (sought : Sought Agreed search t.allPointTexts) (bounds : paging.InWords)
    (few : t.points.rows.length ≤ 2 ^ 63) :
    (t.findPoints e merchant search paging).map (fun x => (x.1.map GeoPoint.bare, x.2)) =
      t.view.findPoints .memory merchant search paging := by
  have fewer := Nat.le_trans
    (List.length_filter_le (·.merchant = some merchant) t.points.rows) few
  have found := e.seek_map (f := GeoPoint.bare) (fun _ => rfl) (fun _ => List.cons_ne_nil _ _)
    (sought.filter (·.merchant = some merchant)) bounds fewer
  have scope : t.view.pointsOf merchant =
      (t.points.rows.filter (·.merchant = some merchant)).map GeoPoint.bare :=
    t.view_pointsOf merchant
  rw [← scope] at found
  exact found

/-- The search finds the same in tables that look the same. -/
theorem findMerchants_alike {t t' : Tables} (h : t.view = t'.view) (e e' : Engine) (owner : Int)
    {search : String} {paging : Paging}
    (hc : (Command.merchants (.list search paging)).Comparable Agreed t)
    (hc' : (Command.merchants (.list search paging)).Comparable Agreed t') :
    (t.findMerchants e owner search paging).map (fun x => (x.1.map Merchant.bare, x.2)) =
      (t'.findMerchants e' owner search paging).map fun x => (x.1.map Merchant.bare, x.2) := by
  rw [findMerchants_bare e t hc.1 hc.2.1 hc.2.2, findMerchants_bare e' t' hc'.1 hc'.2.1 hc'.2.2, h]

theorem findTags_alike {t t' : Tables} (h : t.view = t'.view) (e e' : Engine) (owner : Int)
    (category scope : Option String) {search : String} {paging : Paging}
    (hc : (Command.tags (.list search category paging)).Comparable Agreed t)
    (hc' : (Command.tags (.list search category paging)).Comparable Agreed t') :
    (t.findTags e owner search scope paging).map (fun x => (x.1.map Tag.bare, x.2)) =
      (t'.findTags e' owner search scope paging).map fun x => (x.1.map Tag.bare, x.2) := by
  rw [findTags_bare e t hc.1 hc.2.1 hc.2.2, findTags_bare e' t' hc'.1 hc'.2.1 hc'.2.2, h]

theorem findPoints_alike {t t' : Tables} (h : t.view = t'.view) (e e' : Engine) (merchant : Int)
    {search : String} {paging : Paging}
    (hc : (Command.points (.list merchant search paging)).Comparable Agreed t)
    (hc' : (Command.points (.list merchant search paging)).Comparable Agreed t') :
    (t.findPoints e merchant search paging).map (fun x => (x.1.map GeoPoint.bare, x.2)) =
      (t'.findPoints e' merchant search paging).map fun x => (x.1.map GeoPoint.bare, x.2) := by
  rw [findPoints_bare e t hc.1 hc.2.1 hc.2.2, findPoints_bare e' t' hc'.1 hc'.2.1 hc'.2.2, h]

theorem findInWindow_bare {w : Window} {limit : Nat} (word : limit < 2 ^ 64)
    (few : t.points.rows.length ≤ 2 ^ 63) :
    (t.findInWindow e w limit).map GeoPoint.bare = t.view.findInWindow .memory w limit := by
  have inside : t.view.points.rows.filter (fun p => w.contains p.longitude p.latitude) =
      (t.points.rows.filter fun p => w.contains p.longitude p.latitude).map GeoPoint.bare := by
    show (t.points.rows.map GeoPoint.bare).filter _ = _
    rw [List.filter_map]
    congr 2
    funext p
    exact contains_alike w (unsigned_unsigned _) (unsigned_unsigned _)
  have fewer := Nat.le_trans
    (List.length_filter_le (fun p => w.contains p.longitude p.latitude) t.points.rows) few
  rw [findInWindow, findInWindow, inside, Engine.atMost_agrees e word fewer, Engine.atMost,
    Engine.atMost]
  split
  · rfl
  · exact List.map_take

end Tables

theorem GeoPoint.distanceTo_bare (p : GeoPoint) (latitude longitude : Float) :
    p.bare.distanceTo latitude longitude = p.distanceTo latitude longitude :=
  haversine_alike (unsigned_unsigned _) (unsigned_unsigned _) latitude longitude

end Gazetteer
