import Gazetteer.Proofs.Imports
import Mathlib.Logic.Relation

/-!
# What a caller writes

Whatever a caller asks for comes down to a few writes to the tables, each allowed by who owns the
merchants and tags at hand. So a property of the tables needs to be looked at once for each write.

* `Tables.Owns`, `Tables.Free`: a merchant of the caller, and a point that no one else holds.
* `Write`: a single write with what allows it.
* `Writes`: writes one after another.
* `linkTags_writes`, `movePoints_writes`: several writes of one kind.
* `linkTags_eq`, `addFavorite_eq`, `Repoints`: the one column that they touch.
-/

set_option autoImplicit false

namespace Gazetteer

namespace Tables

/-- The merchant is stored and belongs to the caller. -/
def Owns (who : Principal) (m : Int) (t : Tables) : Prop :=
  ∃ r, t.merchants.get? m = some r ∧ r.owner = who.id

/-- The merchants of the caller, in the order of their ids. -/
def ownMerchants (who : Principal) (t : Tables) : List Merchant :=
  t.merchants.rows.filter (·.isOwnedBy who)

/-- Only merchants of the caller are given the point. -/
def OwnsHolder (who : Principal) (holder : Option Int) (t : Tables) : Prop :=
  ∀ m, holder = some m → t.Owns who m

/-- No merchant of somebody else holds the point. -/
def Free (who : Principal) (p : GeoPoint) (t : Tables) : Prop :=
  ∀ m r, p.merchant = some m → t.merchants.get? m = some r → r.owner = who.id

/-- The point is stored, and no merchant of somebody else holds it. -/
def Takes (who : Principal) (id : Int) (t : Tables) : Prop :=
  ∃ p, t.points.get? id = some p ∧ t.Free who p

end Tables

/-- The writes of a caller, each with what allows it. -/
inductive Write (e : Engine) (who : Principal) : Tables → Tables → Prop
  | addMerchant (m : Merchant) (t : Tables) (own : m.owner = who.id) :
    Write e who t (t.insertMerchant e m).2
  | rewriteMerchant (m : Merchant) (t : Tables) (before : t.Owns who m.id)
    (own : m.owner = who.id) : Write e who t (t.updateMerchant e m)
  | expel (id : Int) (t : Tables) (own : t.Owns who id) : Write e who t (t.expel id)
  | addTag (tag : Tag) (t : Tables) (own : tag.owner = who.id) :
    Write e who t (t.insertTag e tag).2
  | rewriteTag (tag old : Tag) (t : Tables) (stored : t.tags.get? tag.id = some old)
    (before : old.owner = who.id) (own : tag.owner = who.id) : Write e who t (t.updateTag e tag)
  | removeTag (id : Int) (tag : Tag) (t : Tables) (stored : t.tags.get? id = some tag)
    (own : tag.owner = who.id) : Write e who t ((t.deleteRelationsOfTag id).deleteTag id)
  | addRelation (r : Relation) (t : Tables) (own : t.Owns who r.merchant) :
    Write e who t (t.addRelation r)
  | clearRelations (id : Int) (t : Tables) : Write e who t (t.deleteRelationsOfMerchant id)
  | addPoint (p : GeoPoint) (t : Tables) (own : t.OwnsHolder who p.merchant) :
    Write e who t (t.insertPoint e p).2
  | rewritePoint (p old : GeoPoint) (t : Tables) (stored : t.points.get? p.id = some old)
    (free : t.Free who old) (own : t.OwnsHolder who p.merchant) : Write e who t (t.updatePoint e p)
  | removePoint (id : Int) (t : Tables) (takes : t.Takes who id) : Write e who t (t.deletePoint id)
  | movePoint (id : Int) (target : Option Int) (t : Tables) (takes : t.Takes who id)
    (own : t.OwnsHolder who target) : Write e who t (t.setPointMerchant id target)
  | favor (id : Int) (t : Tables) (own : t.Owns who id) : Write e who t (t.addFavorite who.id id)
  | disfavor (id : Int) (t : Tables) (own : t.Owns who id) :
    Write e who t (t.removeFavorite who.id id)

/-- Writes of a caller, one after another. -/
def Writes (e : Engine) (who : Principal) : Tables → Tables → Prop :=
  Relation.ReflTransGen (Write e who)

theorem Write.writes {e : Engine} {who : Principal} {t t' : Tables} (h : Write e who t t') :
    Writes e who t t' := .single h

/-- What each write keeps, writes one after another keep. -/
theorem Writes.keeps {e : Engine} {who : Principal} {P : Tables → Prop}
    (step : ∀ t t', Write e who t t' → P t → P t') {t t' : Tables} (h : Writes e who t t')
    (start : P t) : P t' := by
  induction h with
  | refl => exact start
  | tail _ w ih => exact step _ _ w ih

/-! ## What stays allowed -/

namespace Tables

variable {e : Engine} {who : Principal} {t t' : Tables}

theorem ownsHolder_none : t.OwnsHolder who none := fun _ h => nomatch h

theorem Owns.ownsHolder {m : Int} (own : t.Owns who m) : t.OwnsHolder who (some m) := by
  rintro j ⟨⟩
  exact own

theorem owns_of_merchants {m : Int} (h : t'.merchants = t.merchants) (own : t.Owns who m) :
    t'.Owns who m := by
  obtain ⟨r, hr, ho⟩ := own
  exact ⟨r, h ▸ hr, ho⟩

/-- A point stays free when all that happened to the merchants happened to those of the caller. -/
theorem takes_of_merchants {id : Int} (points : t'.points = t.points)
    (merchants : ∀ i r, t'.merchants.get? i = some r →
      r.owner = who.id ∨ t.merchants.get? i = some r)
    (h : t.Takes who id) : t'.Takes who id := by
  obtain ⟨p, stored, free⟩ := h
  refine ⟨p, points ▸ stored, ?_⟩
  intro m r hp hr
  obtain ho | hr := merchants m r hr
  · exact ho
  · exact free m r hp hr

theorem insertMerchant_cases {m r : Merchant} {i : Int} (own : m.owner = who.id)
    (h : (t.insertMerchant e m).2.merchants.get? i = some r) :
    r.owner = who.id ∨ t.merchants.get? i = some r := by
  replace h := (Table.get?_insert _ _ _).symm.trans h
  split at h
  · cases h
    exact .inl own
  · exact .inr h

theorem owns_insertMerchant {m : Merchant} (own : m.owner = who.id) :
    (t.insertMerchant e m).2.Owns who t.merchants.next :=
  ⟨_, Table.get?_insert_self t.merchants _, own⟩

theorem get?_insertMerchant {m r : Merchant} {i : Int} (h : t.merchants.get? i = some r) :
    (t.insertMerchant e m).2.merchants.get? i = some r := by
  have old : i ≠ t.merchants.next := by
    have := t.merchants.bounded r (Table.mem_of_get? h)
    rw [Table.key_of_get? h] at this
    rw [Table.next]
    omega
  exact ((Table.get?_insert t.merchants _ _).trans (if_neg old)).trans h

theorem Owns.insertMerchant {m : Merchant} {i : Int} (own : t.Owns who i) :
    (t.insertMerchant e m).2.Owns who i := by
  obtain ⟨r, hr, ho⟩ := own
  exact ⟨r, get?_insertMerchant hr, ho⟩

theorem updateMerchant_owner {m r : Merchant} {i : Int} (before : t.Owns who m.id)
    (own : m.owner = who.id) (h : t.merchants.get? i = some r) :
    ∃ r', (t.updateMerchant e m).merchants.get? i = some r' ∧ r'.owner = r.owner := by
  refine ⟨_, (Table.get?_modify t.merchants _ _ _).trans (congrArg _ h), ?_⟩
  rw [Table.changed]
  split
  · next hk =>
    obtain ⟨old, hold, ho⟩ := before
    have hi : i = m.id := (Table.key_of_get? h).symm.trans hk
    rw [hi, hold] at h
    cases h
    cases e
    · exact own.trans ho.symm
    · rfl
  · rfl

theorem updateMerchant_cases {m r : Merchant} {i : Int} (before : t.Owns who m.id)
    (own : m.owner = who.id) (h : (t.updateMerchant e m).merchants.get? i = some r) :
    r.owner = who.id ∨ t.merchants.get? i = some r := by
  have hm := (Table.get?_modify t.merchants _ _ _).symm.trans h
  obtain ⟨old, hold, hc⟩ := Option.map_eq_some_iff.1 hm
  rw [Table.changed] at hc
  split at hc
  · next hk =>
    have hi : i = m.id := (Table.key_of_get? hold).symm.trans hk
    obtain ⟨r', hr', ho'⟩ := updateMerchant_owner (e := e) before own hold
    obtain ⟨b, hb, hob⟩ := before
    rw [h] at hr'
    rw [hi, hb] at hold
    cases hr'
    cases hold
    exact .inl (ho'.trans hob)
  · exact .inr (hc ▸ hold)

theorem Owns.updateMerchant {m : Merchant} {i : Int} (before : t.Owns who m.id)
    (own : m.owner = who.id) (h : t.Owns who i) : (t.updateMerchant e m).Owns who i := by
  obtain ⟨r, hr, ho⟩ := h
  obtain ⟨r', hr', ho'⟩ := updateMerchant_owner (e := e) before own hr
  exact ⟨r', hr', ho'.trans ho⟩

/-- A point that goes to a merchant of the caller, or to none, leaves every point free that was. -/
theorem takes_setPointMerchant {i j : Int} {target : Option Int} (own : t.OwnsHolder who target)
    (h : t.Takes who j) : (t.setPointMerchant i target).Takes who j := by
  obtain ⟨p, stored, free⟩ := h
  refine ⟨_, (Table.get?_modify t.points _ _ _).trans (congrArg _ stored), ?_⟩
  intro m r hp hr
  rw [Table.changed] at hp
  split at hp
  · obtain ⟨r', hr', ho⟩ := own m hp
    cases hr.symm.trans hr'
    exact ho
  · exact free m r hp hr

end Tables

/-! ## Several writes of one kind -/

namespace Tables

variable {e : Engine} {who : Principal}

theorem linkTags_writes (now : Timestamp) {m : Int} (tags : List Int) {t : Tables}
    (own : t.Owns who m) : Writes e who t (t.linkTags now m tags) := by
  rw [linkTags]
  induction tags.filter (0 < ·) generalizing t with
  | nil => exact .refl
  | cons tag rest ih => exact .head (.addRelation ⟨m, tag, now⟩ t own) (ih own)

theorem linkTags_eq (now : Timestamp) (m : Int) (tags : List Int) (t : Tables) :
    t.linkTags now m tags =
      { t with relations := t.relations ++ (tags.filter (0 < ·)).map fun i => ⟨m, i, now⟩ } := by
  rw [linkTags]
  induction tags.filter (0 < ·) generalizing t with
  | nil => simp
  | cons i rest ih =>
    rw [List.foldl_cons, ih, addRelation]
    simp

theorem addFavorite_eq (user m : Int) (t : Tables) :
    t.addFavorite user m = { t with favorites := (t.addFavorite user m).favorites } := by
  rw [addFavorite]
  split <;> rfl

/-- Nothing but the points is different. -/
def Repoints (t t' : Tables) : Prop := t' = { t with points := t'.points }

theorem Repoints.refl (t : Tables) : t.Repoints t := rfl

theorem Repoints.trans {t t' t'' : Tables} (h : t.Repoints t') (h' : t'.Repoints t'') :
    t.Repoints t'' := by
  rw [Repoints] at h h' ⊢
  rw [h', h]

theorem Repoints.merchants {t t' : Tables} (h : t.Repoints t') : t'.merchants = t.merchants := by
  rw [h]

theorem setPointMerchant_repoints (i : Int) (target : Option Int) (t : Tables) :
    t.Repoints (t.setPointMerchant i target) := rfl

/-- Points that go to one target, one after another. -/
def movePoints (target : Option Int) (ids : List Int) (t : Tables) : Tables :=
  ids.foldl (fun t i => t.setPointMerchant i target) t

theorem holdPoints_eq (m : Int) (ids : List Int) (t : Tables) :
    t.holdPoints m ids = t.movePoints (some m) ids := rfl

theorem releasePoints_eq (m : Int) (kept : List Int) (t : Tables) :
    t.releasePoints m kept =
      t.movePoints none (((t.pointsOf m).filter fun p => !kept.contains p.id).map GeoPoint.id) := by
  rw [movePoints, List.foldl_map, releasePoints]

theorem movePoints_repoints (target : Option Int) (ids : List Int) (t : Tables) :
    t.Repoints (t.movePoints target ids) := by
  induction ids generalizing t with
  | nil => exact .refl t
  | cons i rest ih => exact (setPointMerchant_repoints i target t).trans (ih _)

theorem movePoints_writes {target : Option Int} {ids : List Int} {t : Tables}
    (own : t.OwnsHolder who target) (takes : ∀ i ∈ ids, t.Takes who i) :
    Writes e who t (t.movePoints target ids) := by
  induction ids generalizing t with
  | nil => exact .refl
  | cons i rest ih =>
    have first := takes i List.mem_cons_self
    refine .head (.movePoint i target t first own) (ih own ?_)
    intro j hj
    exact takes_setPointMerchant own (takes j (List.mem_cons_of_mem _ hj))

theorem movePoints_takes {target : Option Int} {ids : List Int} {t : Tables} {j : Int}
    (own : t.OwnsHolder who target) (h : t.Takes who j) :
    (t.movePoints target ids).Takes who j := by
  induction ids generalizing t with
  | nil => exact h
  | cons i rest ih => exact ih own (takes_setPointMerchant own h)

end Tables

end Gazetteer
