import Gazetteer.Proofs.Frames
import Gazetteer.Proofs.InFlight
import Gazetteer.Proofs.SignedZero

/-!
# What is stored is valid

Drafts are checked when they come in. Rows are also written from answers of providers, from rows on
record and from cells of a file, and a colour is rewritten after its check. All that is stored
passes the checks of drafts all the same.

* `MerchantFields.Valid`, `GeoPointDraft.Valid`, `TagDraft.Valid`: what the checks amount to.
* `Merchant.columns`, `GeoPoint.draft`, `Tag.draft`: a row as the draft that says the same.
* `Tables.Valid`: every row is valid.
* `Geocoding.Linked.valid`, `Merchants.geocode_valid`, ...: the calls keep it so.
* `stored_valid`: what is stored at any time.
-/

set_option autoImplicit false

namespace Gazetteer

/-! ## Checks -/

structure MerchantFields.Valid (f : MerchantFields) : Prop where
  titled : Text.isBlankText f.title = false
  title : f.title.length ≤ 100
  phone : f.phone.length ≤ 20
  city : f.city.length ≤ 50
  area : f.area.length ≤ 50
  level : f.geocodeLevel.length ≤ 50
  description : f.geocodeDescription.length ≤ 100
  longitude : ∀ x, f.longitude = some x → -180 ≤ x ∧ x ≤ 180
  latitude : ∀ x, f.latitude = some x → -90 ≤ x ∧ x ≤ 90
  score : 0 ≤ f.geocodeScore ∧ f.geocodeScore ≤ 100

structure GeoPointDraft.Valid (d : GeoPointDraft) : Prop where
  longitude : -180 ≤ d.longitude ∧ d.longitude ≤ 180
  latitude : -90 ≤ d.latitude ∧ d.latitude ≤ 90
  accuracy : 0 ≤ d.accuracy ∧ d.accuracy ≤ 100
  source : d.source.length ≤ 50

structure TagDraft.Valid (d : TagDraft) : Prop where
  named : Text.isBlankText d.name = false
  name : d.name.length ≤ 50
  shortName : d.shortName.length ≤ 10
  category : d.category.length ≤ 50
  color : d.color.length ≤ 7

theorem require_bind_eq_ok_iff {α : Type} {holds : Bool} {cause : Invalid}
    {f : Unit → Except Failure α} {a : α} :
    (require holds cause >>= f) = .ok a ↔ holds = true ∧ f () = .ok a := by
  cases holds with
  | false => exact ⟨(fun h => nomatch h), (fun h => nomatch h.1)⟩
  | true => exact ⟨fun h => ⟨rfl, h⟩, fun h => h.2⟩

theorem isLongitude_iff (x : Float) : isLongitude x = true ↔ -180 ≤ x ∧ x ≤ 180 := by
  simp [isLongitude, between]

theorem isLatitude_iff (x : Float) : isLatitude x = true ↔ -90 ≤ x ∧ x ≤ 90 := by
  simp [isLatitude, between]

theorem GeoPointDraft.check_eq_ok_iff (d : GeoPointDraft) : d.check = .ok () ↔ d.Valid := by
  simp only [check, requireLongitude, requireLatitude, requireBetween, requireLength,
    require_bind_eq_ok_iff, require_eq_ok_iff, isLongitude_iff, isLatitude_iff, Bool.and_eq_true,
    decide_eq_true_eq]
  refine ⟨?_, fun h => ⟨h.longitude, h.latitude, h.accuracy, h.source⟩⟩
  rintro ⟨lon, lat, accuracy, source⟩
  exact ⟨lon, lat, accuracy, source⟩

theorem TagDraft.check_eq_ok_iff (d : TagDraft) : d.check = .ok () ↔ d.Valid := by
  simp only [check, requireLength, require_bind_eq_ok_iff, require_eq_ok_iff, decide_eq_true_eq,
    Bool.not_eq_true']
  refine ⟨?_, fun h => ⟨h.named, h.name, h.shortName, h.category, h.color⟩⟩
  rintro ⟨named, name, shortName, category, color⟩
  exact ⟨named, name, shortName, category, color⟩

theorem MerchantFields.check_eq_ok_iff (f : MerchantFields) : f.check = .ok () ↔ f.Valid := by
  have conditions : f.check = .ok () ↔ Text.isBlankText f.title = false ∧ f.title.length ≤ 100 ∧
      f.phone.length ≤ 20 ∧ f.city.length ≤ 50 ∧ f.area.length ≤ 50 ∧ f.geocodeLevel.length ≤ 50 ∧
      f.geocodeDescription.length ≤ 100 ∧ (∀ x, f.longitude = some x → -180 ≤ x ∧ x ≤ 180) ∧
      (∀ x, f.latitude = some x → -90 ≤ x ∧ x ≤ 90) ∧
      0 ≤ f.geocodeScore ∧ f.geocodeScore ≤ 100 := by
    cases lon : f.longitude <;> cases lat : f.latitude <;>
      simp [check, lon, lat, requireLength, requireLongitude, requireLatitude, requireBetween,
        require_bind_eq_ok_iff, require_eq_ok_iff, isLongitude_iff, isLatitude_iff]
  rw [conditions]
  refine ⟨?_, fun h => ⟨h.titled, h.title, h.phone, h.city, h.area, h.level, h.description,
    h.longitude, h.latitude, h.score⟩⟩
  rintro ⟨titled, title, phone, city, area, level, description, longitude, latitude, score⟩
  exact ⟨titled, title, phone, city, area, level, description, longitude, latitude, score⟩

/-! ## Rows -/

/-- The columns of a merchant, as a caller would write them. -/
def Merchant.columns (m : Merchant) : MerchantFields :=
  { title := m.title, description := m.description, phone := m.phone, address := m.address,
    city := m.city, area := m.area, longitude := m.longitude, latitude := m.latitude,
    geocodeLevel := m.geocodeLevel, geocodeScore := m.geocodeScore,
    geocodeDescription := m.geocodeDescription, geocodeAttempts := m.geocodeAttempts }

/-- The draft that says what the point says. -/
def GeoPoint.draft (p : GeoPoint) : GeoPointDraft :=
  { merchant := p.merchant, source := p.source, longitude := p.longitude, latitude := p.latitude,
    address := p.address, accuracy := p.accuracy, metadata := p.metadata }

/-- The draft that says what the tag says. -/
def Tag.draft (t : Tag) : TagDraft :=
  { name := t.name, shortName := t.shortName, category := t.category, remarks := t.remarks,
    color := t.color }

/-- The check of a point does not look at its holder. -/
theorem GeoPointDraft.Valid.heldBy {d : GeoPointDraft} (h : d.Valid) (m : Option Int) :
    ({ d with merchant := m } : GeoPointDraft).Valid :=
  ⟨h.longitude, h.latitude, h.accuracy, h.source⟩

/-- What passed as a point passes as a copy. -/
theorem Geocoding.copyDraft_check {p : GeoPoint} (m : Int) (metadata : Json.Object)
    (h : p.draft.Valid) : (copyDraft p m metadata).check = .ok () :=
  (GeoPointDraft.check_eq_ok_iff _).2 ⟨h.longitude, h.latitude, h.accuracy, h.source⟩

/-- Every row is valid. -/
structure Tables.Valid (t : Tables) : Prop where
  merchants : ∀ m ∈ t.merchants.rows, m.columns.Valid
  tags : ∀ tag ∈ t.tags.rows, tag.draft.Valid
  points : ∀ p ∈ t.points.rows, p.draft.Valid

/-- A change of what geocoding finds out about a merchant. -/
theorem MerchantFields.Valid.relocate {f : MerchantFields} (h : f.Valid) {lon lat : Option Float}
    {level description : String} {score : Int} {attempts : UInt32}
    (hlon : ∀ x, lon = some x → -180 ≤ x ∧ x ≤ 180) (hlat : ∀ x, lat = some x → -90 ≤ x ∧ x ≤ 90)
    (hscore : 0 ≤ score ∧ score ≤ 100) (hlevel : level.length ≤ 50)
    (hdescription : description.length ≤ 100) :
    ({ f with
      longitude := lon, latitude := lat, geocodeLevel := level, geocodeScore := score,
      geocodeDescription := description, geocodeAttempts := attempts } : MerchantFields).Valid :=
  ⟨h.titled, h.title, h.phone, h.city, h.area, hlevel, hdescription, hlon, hlat, hscore⟩

theorem Merchant.apply_valid {m : Merchant} {f : MerchantFields} (now : Timestamp)
    (old : m.geocodeDescription.length ≤ 100) (h : f.Valid) : (m.apply now f).columns.Valid := by
  have description : (m.apply now f).geocodeDescription.length ≤ 100 := by
    rw [apply]
    dsimp only
    split
    · exact old
    · exact h.description
  exact h.relocate h.longitude h.latitude h.score h.level description

theorem Merchant.ofFields_valid {f : MerchantFields} (now : Timestamp) (owner : Int) (h : f.Valid) :
    (ofFields now f owner).columns.Valid := by
  have short : pending.length ≤ 100 := by decide
  exact apply_valid now short h

theorem GeoPoint.revise_valid {p : GeoPoint} {d : GeoPointDraft} (now : Timestamp) (h : d.Valid) :
    (p.revise now d).draft.Valid :=
  ⟨h.longitude, h.latitude, h.accuracy, h.source⟩

theorem trimChars_length_le (cs : List Char) : (Text.trimChars cs).length ≤ cs.length := by
  have front := List.length_dropWhile_le Text.isBlank cs
  have back := List.length_dropWhile_le Text.isBlank (cs.dropWhile Text.isBlank).reverse
  rw [List.length_reverse] at back
  rw [Text.trimChars, List.length_reverse]
  omega

theorem canonicalColor_length_le (s : String) : (canonicalColor s).length ≤ s.length := by
  have trimmed := trimChars_length_le s.toList
  rw [String.length_toList] at trimmed
  rw [canonicalColor, String.length_ofList, List.length_map]
  split
  · next rest h =>
    rw [h, List.length_cons] at trimmed
    omega
  · exact trimmed

theorem Tag.revise_valid {t : Tag} {d : TagDraft} (now : Timestamp) (h : d.Valid) :
    (t.revise now d).draft.Valid where
  named := h.named
  name := h.name
  shortName := h.shortName
  category := h.category
  color := (canonicalColor_length_le d.color).trans h.color

namespace Merchants

theorem shortened_length_le (most : Nat) (s : String) : (shortened most s).length ≤ most := by
  rw [shortened, String.length_ofList]
  exact List.length_take_le most s.toList

/-- A place from a valid point is one that a draft could give. -/
theorem placedAt_valid {m : Merchant} {p : GeoPoint} (origin : Metadata) (h : m.columns.Valid)
    (hp : p.draft.Valid) : (placedAt (tried m) p origin).columns.Valid := by
  refine h.relocate ?_ ?_ hp.accuracy (shortened_length_le ..) (shortened_length_le ..)
  · rintro x ⟨⟩
    exact hp.longitude
  · rintro x ⟨⟩
    exact hp.latitude

theorem unresolved_valid {m : Merchant} (e : Failure) (h : m.columns.Valid) :
    (unresolved (tried m) e).columns.Valid :=
  h.relocate h.longitude h.latitude h.score h.level (shortened_length_le ..)

end Merchants

/-! ## Rows as they are kept -/

namespace Engine

variable (e : Engine)

theorem keptFloat_range {low high x : Float} (h : low ≤ x ∧ x ≤ high) :
    low ≤ e.keptFloat x ∧ e.keptFloat x ≤ high := by
  have same := unsigned_keptFloat e x
  rw [le_right_alike same, le_left_alike same]
  exact h

theorem keptPoint_valid {p : GeoPoint} (h : p.draft.Valid) : (e.keptPoint p).draft.Valid :=
  ⟨e.keptFloat_range h.longitude, e.keptFloat_range h.latitude, h.accuracy, h.source⟩

theorem revisedPoint_valid {new : GeoPoint} (old : GeoPoint) (h : new.draft.Valid) :
    (e.revisedPoint new old).draft.Valid := by
  cases e
  · exact keptPoint_valid .memory h
  · exact keptPoint_valid .sqlite h

theorem keptMerchant_valid {m : Merchant} (h : m.columns.Valid) :
    (e.keptMerchant m).columns.Valid := by
  refine h.relocate ?_ ?_ h.score h.level h.description
  · intro x hx
    obtain ⟨y, hy, rfl⟩ := Option.map_eq_some_iff.1 hx
    exact e.keptFloat_range (h.longitude y hy)
  · intro x hx
    obtain ⟨y, hy, rfl⟩ := Option.map_eq_some_iff.1 hx
    exact e.keptFloat_range (h.latitude y hy)

theorem revisedMerchant_valid {new : Merchant} (old : Merchant) (h : new.columns.Valid) :
    (e.revisedMerchant new old).columns.Valid := by
  cases e
  · exact keptMerchant_valid .memory h
  · exact keptMerchant_valid .sqlite h

theorem keptTag_valid {t : Tag} (h : t.draft.Valid) : (e.keptTag t).draft.Valid := by
  cases e <;> exact h

theorem revisedTag_valid {new : Tag} (old : Tag) (h : new.draft.Valid) :
    (e.revisedTag new old).draft.Valid := by
  cases e <;> exact h

end Engine

namespace Table

variable {α : Type} [Keyed α] {p : α → Prop} {t : Table α}

theorem forall_insert {a : α} (h : ∀ r ∈ t.rows, p r) (new : p (withKey t.next a)) :
    ∀ r ∈ (t.insert a).rows, p r := by
  intro r hr
  obtain hr | hr := List.mem_append.1 hr
  · exact h r hr
  · obtain rfl := List.mem_singleton.1 hr
    exact new

theorem forall_modify {i : Int} {f : α → α} (h : ∀ r ∈ t.rows, p r)
    (new : ∀ r ∈ t.rows, p (withKey i (f r))) : ∀ r ∈ (t.modify i f).rows, p r := by
  intro r hr
  obtain ⟨old, hold, rfl⟩ := List.mem_map.1 hr
  rw [changed]
  split
  · exact new old hold
  · exact h old hold

theorem forall_keep {f : α → Bool} (h : ∀ r ∈ t.rows, p r) : ∀ r ∈ (t.keep f).rows, p r :=
  fun r hr => h r (List.mem_filter.1 hr).1

end Table

/-! ## Steps -/

namespace Tables

variable {e : Engine} {who : Principal} {t : Tables}

theorem valid_empty : empty.Valid :=
  ⟨(fun _ h => nomatch h), (fun _ h => nomatch h), (fun _ h => nomatch h)⟩

namespace Valid

theorem insertPoint (h : t.Valid) {p : GeoPoint} (new : p.draft.Valid) :
    (t.insertPoint e p).2.Valid where
  merchants := h.merchants
  tags := h.tags
  points := Table.forall_insert h.points (e.keptPoint_valid (p := withKey t.points.next p) new)

theorem setPointMerchant (h : t.Valid) (i : Int) (target : Option Int) :
    (t.setPointMerchant i target).Valid where
  merchants := h.merchants
  tags := h.tags
  points := by
    refine Table.forall_modify h.points ?_
    intro p hp
    exact (h.points p hp).heldBy target

theorem movePoints (h : t.Valid) (target : Option Int) (ids : List Int) :
    (t.movePoints target ids).Valid := by
  induction ids generalizing t with
  | nil => exact h
  | cons i rest ih => exact ih (h.setPointMerchant i target)

theorem repoint (h : t.Valid) (id : Int) (points : Option (List Int)) :
    (t.repoint id points).Valid := by
  cases points with
  | none => exact h
  | some ids =>
    rw [Tables.repoint, releasePoints_eq, holdPoints_eq]
    exact (h.movePoints _ _).movePoints _ _

theorem updateMerchant (h : t.Valid) {m : Merchant} (new : m.columns.Valid) :
    (t.updateMerchant e m).Valid where
  merchants := Table.forall_modify h.merchants fun old _ => e.revisedMerchant_valid old new
  tags := h.tags
  points := h.points

theorem enroll (h : t.Valid) (now : Timestamp) {draft : MerchantDraft} (new : draft.fields.Valid) :
    (t.enroll e now who draft).2.Valid := by
  rw [enroll_columns]
  have row := Merchant.ofFields_valid now who.id new
  exact ⟨Table.forall_insert h.merchants (e.keptMerchant_valid row), h.tags,
    (h.movePoints _ _).points⟩

theorem rewrite (h : t.Valid) (now : Timestamp) (id : Int) (u : MerchantUpdate) {m : Merchant}
    (new : m.columns.Valid) : (t.rewrite e now who id u m).Valid := by
  rw [rewrite_columns]
  exact ⟨(h.updateMerchant new).merchants, h.tags, (h.repoint id u.pointIds).points⟩

theorem expel (h : t.Valid) (id : Int) : (t.expel id).Valid :=
  ⟨Table.forall_keep h.merchants, h.tags, Table.forall_keep h.points⟩

end Valid

end Tables

/-! ## Calls -/

namespace Merchants

variable {who : Principal} {d : Directory}

theorem create_valid (draft : MerchantDraft) (h : d.tables.Valid) :
    (create who draft d).2.tables.Valid := by
  rw [create_eq]
  refine Action.guarded_keeps (P := fun d => d.tables.Valid) h ?_
  intro _ ok
  obtain ⟨_, checked, _⟩ := bind_eq_ok ok
  exact h.enroll d.now ((MerchantFields.check_eq_ok_iff _).1 checked)

theorem update_valid (id : Int) (u : MerchantUpdate) (h : d.tables.Valid) :
    (update who id u d).2.tables.Valid := by
  rw [update_eq]
  refine Action.guarded_keeps (P := fun d => d.tables.Valid) h ?_
  intro m ok
  obtain ⟨owned, checked, _⟩ := admitUpdate_eq_ok.1 ok
  have stored := Table.mem_of_get? (ownedIn_eq_ok owned).1
  have new := Merchant.apply_valid d.now (h.merchants m stored).description
    ((MerchantFields.check_eq_ok_iff _).1 checked)
  exact h.rewrite d.now id u new

theorem delete_valid (id : Int) (h : d.tables.Valid) : (delete who id d).2.tables.Valid := by
  rw [delete_eq]
  exact Action.guarded_keeps (P := fun d => d.tables.Valid) h fun _ _ => h.expel id

end Merchants

theorem TagCommand.perform_valid (who : Principal) (c : TagCommand) {d : Directory}
    (h : d.tables.Valid) : (c.perform who d).2.tables.Valid := by
  cases c <;> rw [perform, map_snd]
  case create draft =>
    rw [Tags.create_eq]
    refine Action.guarded_keeps (P := fun d => d.tables.Valid) h ?_
    intro _ checked
    have row := Tag.revise_valid (t := default) d.now ((TagDraft.check_eq_ok_iff _).1 checked)
    exact ⟨h.merchants, Table.forall_insert h.tags (d.engine.keptTag_valid row), h.points⟩
  case find id => exact h
  case list search category paging => exact h
  case update id draft =>
    rw [Tags.update_eq]
    refine Action.guarded_keeps (P := fun d => d.tables.Valid) h ?_
    intro tag ok
    obtain ⟨checked, _⟩ := Tags.admitUpdate_eq_ok.1 ok
    have row := Tag.revise_valid (t := tag) d.now ((TagDraft.check_eq_ok_iff _).1 checked)
    exact ⟨h.merchants, Table.forall_modify h.tags fun old _ => d.engine.revisedTag_valid old row,
      h.points⟩
  case delete id =>
    rw [Tags.delete_eq]
    refine Action.guarded_keeps (P := fun d => d.tables.Valid) h ?_
    intro _ _
    exact ⟨h.merchants, Table.forall_keep h.tags, h.points⟩

theorem PointCommand.perform_valid (who : Principal) (c : PointCommand) {d : Directory}
    (h : d.tables.Valid) : (c.perform who d).2.tables.Valid := by
  cases c <;> rw [perform, map_snd]
  case create draft =>
    rw [Points.create_eq]
    refine Action.guarded_keeps (P := fun d => d.tables.Valid) h ?_
    intro _ ok
    obtain ⟨_, checked, _⟩ := bind_eq_ok ok
    exact h.insertPoint (p := draft.toPoint d.now) ((GeoPointDraft.check_eq_ok_iff _).1 checked)
  case find id => exact h
  case list merchant search paging => exact h
  case update id draft =>
    rw [Points.update_eq]
    refine Action.guarded_keeps (P := fun d => d.tables.Valid) h ?_
    intro p ok
    obtain ⟨_, checked, _⟩ := bind_eq_ok ok
    have row := GeoPoint.revise_valid (p := p) d.now ((GeoPointDraft.check_eq_ok_iff _).1 checked)
    exact ⟨h.merchants, h.tags,
      Table.forall_modify h.points fun old _ => d.engine.revisedPoint_valid old row⟩
  case delete id =>
    rw [Points.delete_eq]
    refine Action.guarded_keeps (P := fun d => d.tables.Valid) h ?_
    intro _ _
    exact ⟨h.merchants, h.tags, Table.forall_keep h.points⟩

namespace Geocoding

variable {d : Directory}

/-- What was saved is valid, also in the form in which it is answered. -/
theorem Saved.valid {address source : String} {metadata : Json.Object}
    {r : Except Failure GeoPoint × Directory} (saved : Saved address source metadata d r)
    (h : d.tables.Valid) : r.2.tables.Valid ∧ ∀ p, r.1 = .ok p → p.draft.Valid := by
  cases saved with
  | refused e ls => exact ⟨h, fun _ h => nomatch h⟩
  | onRecord p record =>
    refine ⟨h, ?_⟩
    rintro p ⟨⟩
    exact h.points p (List.mem_of_find?_eq_some record)
  | added answer ls r _ checked made =>
    subst made
    have new := (GeoPointDraft.check_eq_ok_iff _).1 checked
    refine ⟨h.insertPoint (p := (resolvedDraft answer address source metadata).toPoint d.now) new, ?_⟩
    rintro p ⟨⟩
    exact new

theorem Linked.valid {job : Job} {r : Except Failure GeoPoint × Directory} (linked : Linked job d r)
    (h : d.tables.Valid) : r.2.tables.Valid ∧ ∀ p, r.1 = .ok p → p.draft.Valid := by
  have stored : ∀ p, p ∈ d.tables.points.rows → ∀ q, Except.ok (ε := Failure) p = .ok q →
      q.draft.Valid := by
    rintro p hp q ⟨⟩
    exact h.points p hp
  cases linked with
  | refused e ls => exact ⟨h, fun _ h => nomatch h⟩
  | loose p d' _ saved => exact saved.valid h
  | held m p _ record _ => exact ⟨h, stored p (List.mem_of_find?_eq_some record)⟩
  | adopted m p d' _ saved _ =>
    obtain ⟨kept, answered⟩ := saved.valid h
    refine ⟨kept.setPointMerchant p.id (some m), ?_⟩
    rintro q ⟨⟩
    exact (answered p rfl).heldBy (some m)
  | reused m holder p q _ _ _ _ own _ => exact ⟨h, stored q (List.mem_filter.1 own).1⟩
  | copied m holder p recorded r _ _ _ _ _ _ checked made =>
    subst made
    have new := (GeoPointDraft.check_eq_ok_iff _).1 checked
    refine ⟨h.insertPoint (p := (copyDraft p m _).toPoint d.now) new, ?_⟩
    rintro q ⟨⟩
    exact new

theorem link_valid (chain : List Provider) (job : Job) (h : d.tables.Valid) :
    (link chain job d).2.tables.Valid :=
  ((link_linked chain job d).valid h).1

end Geocoding

theorem GeocodingCommand.perform_valid (c : GeocodingCommand) {d : Directory}
    (h : d.tables.Valid) : (c.perform d).2.tables.Valid := by
  cases c <;> rw [perform, map_snd]
  case resolve chain address =>
    obtain ⟨r, ls, asked⟩ := Geocoding.resolve_asks chain address d
    rw [asked]
    exact h
  case save chain address source metadata =>
    exact ((Geocoding.save_saved chain address source metadata d).valid h).1
  case link chain job => exact Geocoding.link_valid chain job h
  case batch chain source addresses =>
    refine Geocoding.batch_keeps (P := fun d => d.tables.Valid) ?_ addresses h
    intro address d before
    exact ((Geocoding.save_saved chain address source none d).valid before).1
  case nearby longitude latitude radius limit =>
    obtain ⟨r, looked⟩ := Geocoding.nearby_looks longitude latitude radius limit d
    rw [looked]
    exact h

/-- Whatever a provider answers, what is mirrored into a merchant comes from a valid point. -/
theorem Merchants.geocode_valid (who : Principal) (chain : Option (List Provider)) (id : Int)
    {d : Directory} (h : d.tables.Valid) : (geocode chain who id d).2.tables.Valid := by
  have done := geocode_geocoded chain who id d
  generalize geocode chain who id d = r at done
  have stored {m : Merchant} (owned : ownedIn who id d.tables = .ok m) : m.columns.Valid :=
    h.merchants m (Table.mem_of_get? (ownedIn_eq_ok owned).1)
  cases done with
  | refused e => exact h
  | placed m p origin d' owned linked =>
    obtain ⟨kept, answered⟩ := linked.valid h
    exact kept.updateMerchant (placedAt_valid origin (stored owned) (answered p rfl))
  | unplaced m e x d' owned linked =>
    obtain ⟨kept, _⟩ := linked.valid h
    exact kept.updateMerchant (unresolved_valid e (stored owned))
  | crashed m x d' owned linked => exact (linked.valid h).1

theorem MerchantCommand.perform_valid (who : Principal) (c : MerchantCommand) {d : Directory}
    (h : d.tables.Valid) : (c.perform who d).2.tables.Valid := by
  cases c <;> rw [perform, map_snd]
  case create draft => exact Merchants.create_valid draft h
  case find id =>
    rw [Merchants.find_eq]
    exact Action.guarded_keeps (P := fun d => d.tables.Valid) h fun _ _ => h
  case list search paging => exact h
  case update id u => exact Merchants.update_valid id u h
  case delete id => exact Merchants.delete_valid id h
  case geocode chain id => exact Merchants.geocode_valid who chain id h

theorem Import.importBytes_valid (i : Importer) (who : Principal) (auto : Bool)
    (bytes : List UInt8) {d : Directory} (h : d.tables.Valid) :
    (importBytes i who auto bytes d).2.tables.Valid := by
  refine importBytes_keeps (P := fun d => d.tables.Valid) ?_ bytes h
  intro r d before
  have done := importRow_done i who (auto && i.background) r d
  generalize importRow i who (auto && i.background) r d = after at done
  cases done with
  | rejected ps _ => exact before
  | imported tags m d' _ _ created =>
    have kept : (Merchants.create who (r.draft tags) d).2.tables.Valid :=
      Merchants.create_valid (r.draft tags) before
    rw [created] at kept
    exact kept

/-! ## Whatever is done -/

theorem Turn.issue_valid (t : Turn) {d : Directory} (h : d.tables.Valid) :
    (t.issue d).2.tables.Valid := by
  have ready : ({ d with now := t.moment } : Directory).tables.Valid := h
  rw [issue]
  cases t.command with
  | merchants c => exact c.perform_valid t.who ready
  | tags c => exact c.perform_valid t.who ready
  | points c => exact c.perform_valid t.who ready
  | geocoding c => exact c.perform_valid ready
  | importFile c =>
    rw [Command.issue, map_snd]
    exact Import.importBytes_valid _ _ _ c.bytes ready

theorem Step.take_valid (s : Step) {d : Directory} (h : d.tables.Valid) :
    (s.take d).tables.Valid := by
  cases s with
  | call t => exact t.issue_valid h
  | execute moment chain index =>
    refine Step.execute_keeps (P := fun d => d.tables.Valid) h ?_
    intro job _
    exact Geocoding.link_valid chain job h

theorem Attainable.valid {d : Directory} (h : Attainable d) : d.tables.Valid :=
  h.induction (P := fun d => d.tables.Valid) (fun _ _ => Tables.valid_empty)
    fun s _ before => s.take_valid before

/-- Calls are made and jobs executed in any order, whatever is asked for and whatever the providers
answer. Everything that is stored then passes the checks of drafts. -/
theorem stored_valid (engine : Engine) (moment : Timestamp) (steps : List Step) :
    let t := (advance steps (.empty engine moment)).tables
    (∀ m ∈ t.merchants.rows, m.columns.check = .ok () ∧ m.columns.Valid) ∧
      (∀ tag ∈ t.tags.rows, tag.draft.check = .ok () ∧ tag.draft.Valid) ∧
      ∀ p ∈ t.points.rows, p.draft.check = .ok () ∧ p.draft.Valid := by
  intro t
  have reached : Attainable (advance steps (.empty engine moment)) := ⟨engine, moment, steps, rfl⟩
  have valid : t.Valid := reached.valid
  refine ⟨?_, ?_, ?_⟩
  · intro m hm
    have row := valid.merchants m hm
    exact ⟨m.columns.check_eq_ok_iff.2 row, row⟩
  · intro tag htag
    have row := valid.tags tag htag
    exact ⟨tag.draft.check_eq_ok_iff.2 row, row⟩
  · intro p hp
    have row := valid.points p hp
    exact ⟨p.draft.check_eq_ok_iff.2 row, row⟩

end Gazetteer
