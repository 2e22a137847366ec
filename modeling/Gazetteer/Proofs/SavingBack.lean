import Gazetteer.Proofs.Attempts
import Gazetteer.Proofs.Changes
import Gazetteer.Proofs.Replacements

/-!
# Saving back what was read

Who reads a merchant or a point and writes it back as it was read changes nothing but dates: what is
stored passes its check again, whoever wrote it, is kept as it was read, and links that are replaced
by themselves stay.

* `Tables.TagsPositive`: merchants carry tags with positive ids only, so none is passed over.
* `Merchant.restated`, `Merchant.restatedWhole`: the updates that say what was read.
* `Tables.touchMerchant`, `Tables.touchPoint`, `Tables.renewRelations`: the dates that are written.
* `repoint_own`, `mark_own`, `retag_own`: links that are replaced by themselves.
* `saved_back`: what comes of saving back.
-/

set_option autoImplicit false

namespace Gazetteer

/-! ## Tags that merchants carry -/

/-- Merchants carry tags with positive ids only. -/
def Tables.TagsPositive (t : Tables) : Prop := ∀ r ∈ t.relations, 0 < r.tag

namespace Tables.TagsPositive

variable {t : Tables}

theorem linkTags (h : t.TagsPositive) (now : Timestamp) (m : Int) (tags : List Int) :
    (t.linkTags now m tags).TagsPositive := by
  rw [linkTags_eq]
  intro r hr
  obtain old | new := List.mem_append.1 hr
  · exact h r old
  · obtain ⟨i, named, rfl⟩ := List.mem_map.1 new
    exact of_decide_eq_true (List.mem_filter.1 named).2

theorem retag (h : t.TagsPositive) (now : Timestamp) (id : Int) (tags : Option (List Int)) :
    (t.retag now id tags).TagsPositive := by
  cases tags with
  | none => exact h
  | some ids =>
    have fewer : (t.deleteRelationsOfMerchant id).TagsPositive :=
      fun r hr => h r (List.mem_filter.1 hr).1
    exact fewer.linkTags now id ids

end Tables.TagsPositive

theorem Change.tagsPositive {d d' : Directory} (c : Change d d') (h : d.tables.TagsPositive) :
    d'.tables.TagsPositive := by
  cases c with
  | silent _ engine events repoints =>
    rw [repoints]
    exact h
  | pointed who kind p t repoints =>
    rw [Directory.after, repoints]
    exact h
  | enrolled who draft seen =>
    rw [Directory.after, Tables.enroll_columns]
    exact h.linkTags d.now d.tables.merchants.next draft.tagIds
  | rewritten who id u m seen =>
    rw [Directory.after, Tables.rewrite_columns]
    exact h.retag d.now id u.tagIds
  | expelled who id m => exact fun r hr => h r (List.mem_filter.1 hr).1
  | tagRemoved who id tag => exact fun r hr => h r (List.mem_filter.1 hr).1
  | _ => exact h

theorem Attainable.tagsPositive {d : Directory} (reached : Attainable d) : d.tables.TagsPositive :=
  reached.changes_keep (P := fun d => d.tables.TagsPositive) (fun _ _ _ h => nomatch h)
    fun _ _ c h => c.tagsPositive h

/-! ## What is written back, and what comes of it -/

namespace Merchant

/-- The update that says what the columns of the merchant say. -/
def restated (m : Merchant) : MerchantUpdate := ⟨m.columns, none, none, none⟩

/-- The update that says everything about the merchant, as a caller reads it: its columns, the tags
that it carries in the tables, its points, and whether it is a favorite. -/
def restatedWhole (m : Merchant) (t : Tables) : MerchantUpdate where
  fields := m.columns
  tagIds := some (((t.relationsOf [m.id]).map Relation.tag).filter (0 < ·))
  pointIds := some (m.points.map GeoPoint.id)
  isFavorite := some m.isFavorite

/-- An empty description keeps the one that is there, which is then empty as well. -/
theorem apply_columns (m : Merchant) (now : Timestamp) :
    m.apply now m.columns = { m with updated := now } :=
  congrArg (fun text => { m with geocodeDescription := text, updated := now }) (ite_self _)

end Merchant

namespace Tables

def touchMerchant (id : Int) (moment : Timestamp) (t : Tables) : Tables :=
  { t with merchants := t.merchants.modify id fun m => { m with updated := moment } }

def touchPoint (id : Int) (moment : Timestamp) (t : Tables) : Tables :=
  { t with points := t.points.modify id fun p => { p with updated := moment } }

/-- The relations of a merchant behind those of others, with another date. -/
def renewRelations (id : Int) (moment : Timestamp) (t : Tables) : Tables :=
  { t with
    relations := t.relations.filter (·.merchant ≠ id) ++
      (t.relationsOf [id]).map fun r => { r with created := moment } }

end Tables

/-! ## Rows that are kept as they were read -/

theorem Engine.revisedMerchant_touched {e : Engine} {m : Merchant} (kept : e.keptMerchant m = m)
    (now : Timestamp) :
    e.revisedMerchant { m with updated := now } m = { m with updated := now } := by
  have touched : e.keptMerchant { m with updated := now } =
      { e.keptMerchant m with updated := now } := rfl
  rw [kept] at touched
  cases e with
  | memory => exact touched
  | sqlite => rw [revisedMerchant, touched]

theorem Engine.revisedPoint_touched {e : Engine} {p : GeoPoint} (kept : e.keptPoint p = p)
    (now : Timestamp) : e.revisedPoint { p with updated := now } p = { p with updated := now } := by
  have touched : e.keptPoint { p with updated := now } =
      { e.keptPoint p with updated := now } := rfl
  rw [kept] at touched
  cases e with
  | memory => exact touched
  | sqlite => rw [revisedPoint, touched]

namespace Tables

variable {e : Engine} {t : Tables} {id : Int}

theorem updateMerchant_restated {m : Merchant} (kept : t.MerchantsKept e)
    (stored : t.merchants.get? m.id = some m) (now : Timestamp) :
    t.updateMerchant e (m.apply now m.columns) = t.touchMerchant m.id now := by
  rw [Merchant.apply_columns]
  refine congrArg (fun rows => { t with merchants := rows }) (Table.modify_congr ?_)
  intro r found
  cases stored.symm.trans found
  exact congrArg (withKey m.id)
    (Engine.revisedMerchant_touched (kept m (Table.mem_of_get? stored)) now)

theorem updatePoint_restated {p : GeoPoint} (kept : t.PointsKept e)
    (stored : t.points.get? p.id = some p) (now : Timestamp) :
    t.updatePoint e { p with updated := now } = t.touchPoint p.id now := by
  refine congrArg (fun rows => { t with points := rows }) (Table.modify_congr ?_)
  intro r found
  cases stored.symm.trans found
  exact congrArg (withKey p.id)
    (Engine.revisedPoint_touched (kept p (Table.mem_of_get? stored)) now)

/-! ## Links that are replaced by themselves -/

theorem repoint_own (id : Int) (t : Tables) :
    t.repoint id (some ((t.pointsOf id).map GeoPoint.id)) = t := by
  rw [repoint_eq]
  have same : t.points.mapRows
      (GeoPoint.reassigned id ((t.pointsOf id).map GeoPoint.id)) (fun _ => rfl) = t.points := by
    refine Table.ext_rows ((List.map_congr_left ?_).trans (List.map_id _)) rfl
    intro p stored
    by_cases held : p.merchant = some id
    · have named := (mem_pointsOf_ids stored).2 held
      rw [GeoPoint.reassigned, if_pos named, ← held]
      rfl
    · have out := fun named => held ((mem_pointsOf_ids stored).1 named)
      exact GeoPoint.reassigned_of_out out held
  rw [same]

theorem mark_own (user id : Int) (t : Tables) :
    t.mark user id (some (t.isFavorite user id)) = t := by
  cases marked : t.isFavorite user id with
  | true => rw [mark, addFavorite, if_pos marked]
  | false =>
    have out : ∀ f ∈ t.favorites, decide (f ≠ ⟨user, id⟩) = true := by
      rintro f there
      refine decide_eq_true ?_
      rintro rfl
      rw [isFavorite, List.contains_eq_mem, decide_eq_false_iff_not] at marked
      exact marked there
    rw [mark, removeFavorite, List.filter_eq_self.2 out]

theorem retag_own (h : t.TagsPositive) (now : Timestamp) (id : Int) :
    t.retag now id (some (((t.relationsOf [id]).map Relation.tag).filter (0 < ·))) =
      t.renewRelations id now := by
  have positive : ∀ i ∈ (t.relationsOf [id]).map Relation.tag, decide (0 < i) = true := by
    intro i named
    obtain ⟨r, hr, rfl⟩ := List.mem_map.1 named
    exact decide_eq_true (h r (List.mem_filter.1 hr).1)
  have dated : ((t.relationsOf [id]).map Relation.tag).map (fun i => (⟨id, i, now⟩ : Relation)) =
      (t.relationsOf [id]).map fun r => { r with created := now } := by
    rw [List.map_map]
    refine List.map_congr_left ?_
    intro r hr
    have holder : r.merchant = id := by simpa using (List.mem_filter.1 hr).2
    rw [Function.comp_apply, ← holder]
  rw [retag_eq, retag_relations, List.filter_eq_self.2 positive, List.filter_eq_self.2 positive,
    dated]
  rfl

/-- All three links at once. What is done to one of them leaves the others to be written back. -/
theorem TagsPositive.relink_own (h : t.TagsPositive) (now : Timestamp) (user id : Int) :
    ((t.retag now id (some (((t.relationsOf [id]).map Relation.tag).filter (0 < ·)))).repoint id
      (some ((t.pointsOf id).map GeoPoint.id))).mark user id (some (t.isFavorite user id)) =
      t.renewRelations id now := by
  let r := t.renewRelations id now
  rw [retag_own h]
  show (r.repoint id (some ((r.pointsOf id).map GeoPoint.id))).mark user id
    (some (r.isFavorite user id)) = r
  rw [repoint_own, mark_own]

end Tables

/-! ## The calls -/

namespace Merchants

variable {d : Directory} {who : Principal} {id : Int}

theorem find_of_isOk (h : (find who id d).1.isOk = true) : ∃ m, find who id d = (.ok m, d) := by
  obtain ⟨m, answered⟩ := ok_of_isOk h
  have same : (find who id d).2 = d := by
    rw [find_eq]
    exact Action.guarded_keeps (P := fun d' => d' = d) rfl fun _ _ => rfl
  exact ⟨m, Prod.ext answered same⟩

/-- A merchant may be given the points that it holds. -/
theorem linkable_own {t : Tables} {p : GeoPoint} (held : p ∈ t.pointsOf id) :
    linkable who (some id) t p.id = .ok () := by
  obtain ⟨there, holder⟩ := List.mem_filter.1 held
  have stored : t.points.get? p.id = some p := Table.get?_of_mem there
  simp only [linkable, stored, of_decide_eq_true holder, if_true]

/-- What is stored passes its check again, so an update with its columns is admitted when it may
give the merchant its points. -/
theorem update_restated (valid : d.tables.Valid) {row : Merchant}
    (owned : ownedIn who id d.tables = .ok row) {u : MerchantUpdate}
    (fields : u.fields = row.columns)
    (points : ∀ i ∈ u.pointIds.getD [], linkable who (some id) d.tables i = .ok ()) :
    ∃ m d', update who id u d = (.ok m, d') ∧
      d'.tables = d.tables.rewrite d.engine d.now who id u (row.apply d.now row.columns) := by
  have stored := Table.mem_of_get? (ownedIn_eq_ok owned).1
  have checked : u.fields.check = .ok () := by
    rw [fields]
    exact (MerchantFields.check_eq_ok_iff _).2 (valid.merchants row stored)
  have admitted : admitUpdate who id u d.tables = .ok row :=
    admitUpdate_eq_ok.2 ⟨owned, checked, points⟩
  rw [update_eq, Action.guarded_of_ok admitted, ← fields]
  exact ⟨_, _, rfl, rfl⟩

end Merchants

namespace Points

variable {d : Directory} {who : Principal} {id : Int}

theorem find_of_isOk (h : (find who id d).1.isOk = true) : ∃ p, find who id d = (.ok p, d) := by
  obtain ⟨p, answered⟩ := ok_of_isOk h
  exact ⟨p, Prod.ext answered rfl⟩

/-- A draft with the merchant of the point itself names no other one. -/
theorem update_restated (valid : d.tables.Valid) {p : GeoPoint}
    (accessible : accessibleIn who id d.tables = .ok p) :
    ∃ q d', update who id p.draft d = (.ok q, d') ∧
      d'.tables = d.tables.updatePoint d.engine { p with updated := d.now } := by
  obtain ⟨stored, m, holder, _⟩ := accessibleIn_eq_ok accessible
  have checked : p.draft.check = .ok () :=
    (GeoPointDraft.check_eq_ok_iff _).2 (valid.points p (Table.mem_of_get? stored))
  have target : requireTarget who p p.draft.merchant d.tables = .ok () := by
    show requireTarget who p p.merchant d.tables = .ok ()
    rw [holder, requireTarget, if_pos holder]
  have admitted : admitUpdate who id p.draft d.tables = .ok p := by
    rw [admitUpdate, checked, ok_bind, accessible, ok_bind, target]
    rfl
  have revised : p.revise d.now p.draft = { p with updated := d.now } := by
    have kept : (p.merchant <|> p.merchant) = p.merchant := by
      cases p.merchant <;> rfl
    exact congrArg (fun m => { p with merchant := m, updated := d.now }) kept
  rw [update_eq, Action.guarded_of_ok admitted, revised]
  exact ⟨_, _, rfl, rfl⟩

end Points

/-- In whatever way a directory came about, and whenever a caller reads a merchant or a point and
writes back what was read: the update succeeds, and nothing but dates is different. When the links
of the merchant are written back as well, its relations are dated anew and stand behind those of
others. -/
theorem saved_back {d : Directory} (reached : Attainable d) (who : Principal) (id : Int)
    (moment : Timestamp) :
    (∀ m, Merchants.find who id d = (.ok m, d) →
      (∃ m' d', Merchants.update who id m.restated { d with now := moment } = (.ok m', d') ∧
        d'.tables = d.tables.touchMerchant id moment) ∧
      ∃ m' d',
        Merchants.update who id (m.restatedWhole d.tables) { d with now := moment } =
          (.ok m', d') ∧
        d'.tables = (d.tables.touchMerchant id moment).renewRelations id moment) ∧
    ∀ p, Points.find who id d = (.ok p, d) →
      ∃ p' d', Points.update who id p.draft { d with now := moment } = (.ok p', d') ∧
        d'.tables = d.tables.touchPoint id moment := by
  have valid : ({ d with now := moment } : Directory).tables.Valid := reached.valid
  refine ⟨?merchant, ?point⟩
  case merchant =>
    intro m read
    rw [Merchants.find_eq] at read
    obtain ⟨row, owned, rfl, _⟩ := Action.guarded_eq_ok read
    obtain ⟨stored, _⟩ := Merchants.ownedIn_eq_ok owned
    obtain rfl := Merchants.id_of_ownedIn owned
    have touched := Tables.updateMerchant_restated reached.merchantsKept stored moment
    refine ⟨?columns, ?whole⟩
    case columns =>
      obtain ⟨m', d', done, tables⟩ := Merchants.update_restated valid owned
        (u := (d.tables.detailed who row).restated) rfl fun _ h => nomatch h
      exact ⟨m', d', done, tables.trans touched⟩
    case whole =>
      have points : ∀ i ∈ (d.tables.pointsOf row.id).map GeoPoint.id,
          Merchants.linkable who (some row.id) d.tables i = .ok () := by
        intro i named
        obtain ⟨p, held, rfl⟩ := List.mem_map.1 named
        exact Merchants.linkable_own held
      obtain ⟨m', d', done, tables⟩ := Merchants.update_restated valid owned
        (u := (d.tables.detailed who row).restatedWhole d.tables) rfl points
      refine ⟨m', d', done, tables.trans ?_⟩
      rw [Tables.rewrite, touched]
      have positive : (d.tables.touchMerchant row.id moment).TagsPositive := reached.tagsPositive
      exact Tables.TagsPositive.relink_own positive moment who.id row.id
  case point =>
    intro p read
    have accessible : Points.accessibleIn who id d.tables = .ok p := (Prod.mk.inj read).1
    obtain ⟨stored, _⟩ := Points.accessibleIn_eq_ok accessible
    obtain rfl := Table.key_of_get? stored
    obtain ⟨p', d', done, tables⟩ := Points.update_restated valid accessible
    exact ⟨p', d', done,
      tables.trans (Tables.updatePoint_restated reached.pointsKept stored moment)⟩

/-- A bakery in the database, with a tag that is gone, a point and a butcher beside it. -/
theorem saved_back_in_bakery :
    let ada : Principal := ⟨1, "ada"⟩
    let titled (title : String) : MerchantFields := { MerchantFields.blank with title := title }
    let calls : List Command := [.merchants (.create ⟨titled "Bakery", [5, 5], [], true⟩),
      .merchants (.create ⟨titled "Butcher", [5], [], false⟩),
      .points (.create ⟨some 1, "", 13.4, -0.0, "", 0, ""⟩)]
    let d := advance (calls.map fun c => .call ⟨ada, default, c⟩) (.empty .sqlite default)
    Attainable d ∧
      (∃ m m' d', Merchants.find ada 1 d = (.ok m, d) ∧
        Merchants.update ada 1 (m.restatedWhole d.tables) { d with now := default } =
          (.ok m', d') ∧
        d'.tables = (d.tables.touchMerchant 1 default).renewRelations 1 default) ∧
      (∃ p p' d', Points.find ada 1 d = (.ok p, d) ∧
        Points.update ada 1 p.draft { d with now := default } = (.ok p', d') ∧
        d'.tables = d.tables.touchPoint 1 default) ∧
      (d.tables.relations.map Relation.merchant = [1, 1, 2] ∧
        ((d.tables.touchMerchant 1 default).renewRelations 1 default).relations.map
          Relation.merchant = [2, 1, 1]) := by
  intro ada titled calls d
  have reached : Attainable d := ⟨.sqlite, default, _, rfl⟩
  have merchant : (Merchants.find ada 1 d).1.isOk = true := by decide +kernel
  have point : (Points.find ada 1 d).1.isOk = true := by decide +kernel
  have relations : d.tables.relations.map Relation.merchant = [1, 1, 2] ∧
      ((d.tables.touchMerchant 1 default).renewRelations 1 default).relations.map
        Relation.merchant = [2, 1, 1] := by decide +kernel
  clear_value d
  obtain ⟨m, read⟩ := Merchants.find_of_isOk merchant
  obtain ⟨p, read'⟩ := Points.find_of_isOk point
  obtain ⟨merchants, points⟩ := saved_back reached ada 1 default
  obtain ⟨_, m', d', updated, tables⟩ := merchants m read
  obtain ⟨p', d'', updated', tables'⟩ := points p read'
  exact ⟨reached, ⟨m, m', d', read, updated, tables⟩, ⟨p, p', d'', read', updated', tables'⟩,
    relations⟩

end Gazetteer
