import Gazetteer.Proofs.Writes

/-!
# What each command writes

Every command but one comes down to writes that its caller may make. The one left out is linking an
address to a merchant that the caller of the service is trusted with.

* `Wrote`: what came of a directory is what writes of a caller make of it.
* `…_wrote`: each call is of this kind.
* `Command.linksUnchecked`: the command that is left out.
* `Turn.take_wrote`: turns are of this kind.
-/

set_option autoImplicit false

namespace Gazetteer

/-- A directory comes from another by writes of a caller. -/
structure Wrote (who : Principal) (d d' : Directory) : Prop where
  engine : d'.engine = d.engine
  queue : d'.queue = d.queue
  writes : Writes d.engine who d.tables d'.tables

namespace Wrote

variable {who : Principal} {d d₁ d₂ : Directory}

theorem refl (d : Directory) : Wrote who d d := ⟨rfl, rfl, .refl⟩

theorem trans (h₁ : Wrote who d d₁) (h₂ : Wrote who d₁ d₂) : Wrote who d d₂ where
  engine := h₂.engine.trans h₁.engine
  queue := h₂.queue.trans h₁.queue
  writes := h₁.writes.trans (h₁.engine ▸ h₂.writes)

theorem of_lookups (d : Directory) (ls : List Lookup) : Wrote who d { d with lookups := ls } :=
  ⟨rfl, rfl, .refl⟩

theorem guarded {α β : Type} {decision : Directory → Except Failure α}
    {effect : α → Directory → β × Directory}
    (h : ∀ a, decision d = .ok a → Wrote who d (effect a d).2) :
    Wrote who d (Action.guarded decision effect d).2 := by
  obtain ⟨e, _, refused⟩ | ⟨a, ok, done⟩ := Action.guarded_cases decision effect d
  · rw [refused]
    exact .refl d
  · rw [done]
    exact h a ok

end Wrote

/-! ## What a decision tells -/

theorem forM_eq_ok_iff {ids : List Int} {f : Int → Except Failure Unit} :
    ids.forM f = .ok () ↔ ∀ i ∈ ids, f i = .ok () := by
  induction ids with
  | nil => exact iff_of_true rfl (List.forall_mem_nil _)
  | cons i rest ih =>
    rw [List.forall_mem_cons, ← ih]
    refine ⟨?_, ?_⟩
    · intro h
      obtain ⟨⟨⟩, first, later⟩ := bind_eq_ok (List.forM_cons.symm.trans h)
      exact ⟨first, later⟩
    · rintro ⟨first, later⟩
      refine List.forM_cons.trans ?_
      rw [first, ok_bind]
      exact later

namespace Merchants

variable {who : Principal} {id : Int} {t : Tables}

theorem ownedIn_eq_ok {m : Merchant} (h : ownedIn who id t = .ok m) :
    t.merchants.get? id = some m ∧ m.owner = who.id := by
  rw [ownedIn] at h
  cases hr : t.merchants.get? id with
  | none => rw [hr] at h; cases h
  | some r =>
    rw [hr] at h
    dsimp only at h
    split at h
    · next ho =>
      cases h
      exact ⟨rfl, by simpa [Merchant.isOwnedBy] using ho⟩
    · cases h

theorem owns_of_ownedIn {m : Merchant} (h : ownedIn who id t = .ok m) : t.Owns who id :=
  ⟨m, ownedIn_eq_ok h⟩

theorem id_of_ownedIn {m : Merchant} (h : ownedIn who id t = .ok m) : m.id = id :=
  Table.key_of_get? (ownedIn_eq_ok h).1

/-- What an admitted update finds, and what it was checked for. -/
theorem admitUpdate_eq_ok {u : MerchantUpdate} {m : Merchant} :
    admitUpdate who id u t = .ok m ↔
      ownedIn who id t = .ok m ∧ u.fields.check = .ok () ∧
        ∀ i ∈ u.pointIds.getD [], linkable who (some id) t i = .ok () := by
  rw [← forM_eq_ok_iff]
  refine ⟨?_, ?_⟩
  · intro admitted
    obtain ⟨_, owned, admitted⟩ := bind_eq_ok admitted
    obtain ⟨_, checked, admitted⟩ := bind_eq_ok admitted
    obtain ⟨_, linked, admitted⟩ := bind_eq_ok admitted
    cases admitted
    exact ⟨owned, checked, linked⟩
  · rintro ⟨owned, checked, linked⟩
    rw [admitUpdate, owned, ok_bind, checked, ok_bind, linked]
    rfl

theorem stored_of_linkable {target : Option Int} (h : linkable who target t id = .ok ()) :
    ∃ p, t.points.get? id = some p := by
  rw [linkable] at h
  cases found : t.points.get? id with
  | none => rw [found] at h; cases h
  | some p => exact ⟨p, rfl⟩

theorem takes_of_linkable {target : Option Int} (own : t.OwnsHolder who target)
    (h : linkable who target t id = .ok ()) : t.Takes who id := by
  obtain ⟨p, hp⟩ := stored_of_linkable h
  refine ⟨p, hp, ?_⟩
  intro m r hm hr
  simp only [linkable, hp, hm, hr] at h
  split at h
  · next same =>
    obtain ⟨r', hr', ho⟩ := own m same.symm
    cases hr.symm.trans hr'
    exact ho
  · split at h
    · next ho => simpa [Merchant.isOwnedBy] using ho
    · cases h

end Merchants

namespace Tags

variable {who : Principal} {id : Int} {t : Tables}

theorem ownedIn_eq_ok {tag : Tag} (h : ownedIn who id t = .ok tag) :
    ∃ old, t.tags.get? id = some old ∧ old.owner = who.id ∧ tag = old.asSeenBy who := by
  rw [ownedIn] at h
  cases hr : t.tags.get? id with
  | none => rw [hr] at h; cases h
  | some old =>
    rw [hr] at h
    dsimp only at h
    split at h
    · next ho =>
      cases h
      exact ⟨old, rfl, by simpa [Tag.isOwnedBy] using ho, rfl⟩
    · cases h

/-- What an admitted update finds, and what it was checked for. -/
theorem admitUpdate_eq_ok {draft : TagDraft} {tag : Tag} :
    admitUpdate who id draft t = .ok tag ↔ draft.check = .ok () ∧ ownedIn who id t = .ok tag := by
  refine ⟨?_, ?_⟩
  · intro admitted
    obtain ⟨_, checked, owned⟩ := bind_eq_ok admitted
    exact ⟨checked, owned⟩
  · rintro ⟨checked, owned⟩
    rw [admitUpdate, checked, ok_bind, owned]

end Tags

namespace Points

variable {who : Principal} {id : Int} {t : Tables}

theorem owns_of_requireMerchant (h : requireMerchant who id t = .ok ()) : t.Owns who id := by
  rw [requireMerchant] at h
  split at h
  · next m hm => exact Merchants.owns_of_ownedIn hm
  · cases h
  · cases h

theorem accessibleIn_eq_ok {p : GeoPoint} (h : accessibleIn who id t = .ok p) :
    t.points.get? id = some p ∧ ∃ m, p.merchant = some m ∧ t.Owns who m := by
  rw [accessibleIn] at h
  cases hs : t.points.get? id with
  | none => rw [hs] at h; cases h
  | some q =>
    cases hm : q.merchant with
    | none => simp only [hs, hm] at h; cases h
    | some m =>
      simp only [hs, hm] at h
      obtain ⟨⟨⟩, hr, hq⟩ := bind_eq_ok h
      cases hq
      exact ⟨rfl, m, hm, owns_of_requireMerchant hr⟩

theorem free_of_holder {p : GeoPoint} {m : Int} (hp : p.merchant = some m) (own : t.Owns who m) :
    t.Free who p := by
  intro m' r hm hr
  cases hp.symm.trans hm
  obtain ⟨r', hr', ho⟩ := own
  cases hr.symm.trans hr'
  exact ho

theorem takes_of_accessibleIn {p : GeoPoint} (h : accessibleIn who id t = .ok p) :
    t.Takes who id := by
  obtain ⟨stored, m, hm, own⟩ := accessibleIn_eq_ok h
  exact ⟨p, stored, free_of_holder hm own⟩

/-- The merchant that a draft names is one of the caller. -/
theorem admitCreate_eq_ok {draft : GeoPointDraft} (h : admitCreate who draft t = .ok ()) :
    ∃ m, draft.merchant = some m ∧ t.Owns who m := by
  obtain ⟨_, _, h⟩ := bind_eq_ok h
  obtain ⟨m, named, own⟩ := bind_eq_ok h
  cases hd : draft.merchant with
  | none =>
    rw [hd] at named
    cases named
  | some m' =>
    rw [hd] at named
    cases named
    exact ⟨m, rfl, owns_of_requireMerchant own⟩

/-- The merchant that holds a point now, and the one that will hold it, are merchants of the
caller. -/
theorem admitUpdate_eq_ok {draft : GeoPointDraft} {p : GeoPoint}
    (h : admitUpdate who id draft t = .ok p) :
    t.points.get? id = some p ∧ t.Free who p ∧
      ∃ m, (draft.merchant <|> p.merchant) = some m ∧ t.Owns who m := by
  obtain ⟨_, _, h⟩ := bind_eq_ok h
  obtain ⟨q, accessible, h⟩ := bind_eq_ok h
  obtain ⟨_, target, h⟩ := bind_eq_ok h
  cases h
  obtain ⟨stored, holder, hp, own⟩ := accessibleIn_eq_ok accessible
  refine ⟨stored, free_of_holder hp own, ?_⟩
  cases hd : draft.merchant with
  | none => exact ⟨holder, hp, own⟩
  | some named =>
    refine ⟨named, rfl, ?_⟩
    simp only [requireTarget, hd] at target
    split at target
    · next same =>
      cases hp.symm.trans same
      exact own
    · exact owns_of_requireMerchant target

end Points

/-! ## The calls on merchants -/

namespace Tables

variable {e : Engine} {who : Principal} {t : Tables}

/-- The tables with a new merchant, which is a favorite if the draft says so. -/
def enter (e : Engine) (now : Timestamp) (who : Principal) (draft : MerchantDraft) (t : Tables) :
    Tables :=
  let r := t.insertMerchant e (.ofFields now draft.fields who.id)
  if draft.isFavorite then r.2.addFavorite who.id r.1.id else r.2

theorem enroll_eq (now : Timestamp) (draft : MerchantDraft) :
    (t.enroll e now who draft).2 =
      ((t.enter e now who draft).linkTags now t.merchants.next draft.tagIds).movePoints
        (some t.merchants.next) draft.pointIds := rfl

/-- A new merchant, and perhaps a favorite. -/
theorem enter_eq (now : Timestamp) (draft : MerchantDraft) :
    t.enter e now who draft =
      { (t.insertMerchant e (.ofFields now draft.fields who.id)).2 with
        favorites := (t.enter e now who draft).favorites } := by
  rw [enter]
  split
  · exact addFavorite_eq ..
  · rfl

theorem enter_merchants (now : Timestamp) (draft : MerchantDraft) :
    (t.enter e now who draft).merchants =
      (t.insertMerchant e (.ofFields now draft.fields who.id)).2.merchants := by
  rw [enter_eq]

theorem enroll_merchants (now : Timestamp) (draft : MerchantDraft) :
    (t.enroll e now who draft).2.merchants =
      (t.insertMerchant e (.ofFields now draft.fields who.id)).2.merchants := by
  rw [enroll_eq, (movePoints_repoints ..).merchants, linkTags_eq]
  exact enter_merchants now draft

theorem enter_writes (now : Timestamp) (draft : MerchantDraft) :
    Writes e who t (t.enter e now who draft) := by
  have added : Write e who t (t.insertMerchant e (.ofFields now draft.fields who.id)).2 :=
    .addMerchant _ t rfl
  have own : (t.insertMerchant e (.ofFields now draft.fields who.id)).2.Owns who
      t.merchants.next := owns_insertMerchant rfl
  rw [enter]
  split
  · exact added.writes.tail (.favor _ _ own)
  · exact added.writes

theorem enroll_writes (now : Timestamp) (draft : MerchantDraft)
    (takes : ∀ i ∈ draft.pointIds, t.Takes who i) :
    Writes e who t (t.enroll e now who draft).2 := by
  have own : (t.enter e now who draft).Owns who t.merchants.next :=
    owns_of_merchants (enter_merchants now draft) (owns_insertMerchant rfl)
  have merchants : ((t.enter e now who draft).linkTags now t.merchants.next draft.tagIds).merchants =
      (t.enter e now who draft).merchants := by
    rw [linkTags_eq]
  have points : ((t.enter e now who draft).linkTags now t.merchants.next draft.tagIds).points =
      t.points := by
    rw [linkTags_eq, enter_eq]
    rfl
  rw [enroll_eq]
  refine ((enter_writes now draft).trans (linkTags_writes now draft.tagIds own)).trans
    (movePoints_writes ?_ ?_)
  · exact (owns_of_merchants merchants own).ownsHolder
  · intro i hi
    refine takes_of_merchants points ?_ (takes i hi)
    intro j r hr
    rw [merchants, enter_merchants] at hr
    exact insertMerchant_cases rfl hr

theorem retag_writes (now : Timestamp) {id : Int} (tags : Option (List Int)) (own : t.Owns who id) :
    Writes e who t (t.retag now id tags) := by
  cases tags with
  | none => exact .refl
  | some ids =>
    have cleared : (t.deleteRelationsOfMerchant id).Owns who id := owns_of_merchants rfl own
    exact .head (.clearRelations id t) (linkTags_writes now ids cleared)

theorem retag_eq (now : Timestamp) (id : Int) (tags : Option (List Int)) (t : Tables) :
    t.retag now id tags = { t with relations := (t.retag now id tags).relations } := by
  cases tags with
  | none => rfl
  | some ids =>
    rw [retag, linkTags_eq]
    rfl

/-- The points that a merchant gives up are its own. -/
theorem takes_of_mem_pointsOf {m : Int} {p : GeoPoint} (own : t.Owns who m)
    (h : p ∈ t.pointsOf m) : t.Takes who p.id := by
  obtain ⟨stored, holder⟩ := List.mem_filter.1 h
  exact ⟨p, Table.get?_of_mem stored, Points.free_of_holder (by simpa using holder) own⟩

theorem repoint_writes {id : Int} (points : Option (List Int)) (own : t.Owns who id)
    (takes : ∀ i ∈ points.getD [], t.Takes who i) : Writes e who t (t.repoint id points) := by
  cases points with
  | none => exact .refl
  | some ids =>
    rw [repoint, releasePoints_eq, holdPoints_eq]
    refine (movePoints_writes ownsHolder_none ?_).trans (movePoints_writes ?_ ?_)
    · intro i hi
      obtain ⟨p, hp, rfl⟩ := List.mem_map.1 hi
      exact takes_of_mem_pointsOf own (List.mem_filter.1 hp).1
    · exact (owns_of_merchants (movePoints_repoints ..).merchants own).ownsHolder
    · intro i hi
      exact movePoints_takes ownsHolder_none (takes i hi)

theorem repoint_repoints (id : Int) (points : Option (List Int)) (t : Tables) :
    t.Repoints (t.repoint id points) := by
  cases points with
  | none => exact .refl t
  | some ids =>
    rw [repoint, releasePoints_eq, holdPoints_eq]
    exact (movePoints_repoints ..).trans (movePoints_repoints ..)

theorem mark_writes {id : Int} (mark : Option Bool) (own : t.Owns who id) :
    Writes e who t (t.mark who.id id mark) := by
  cases mark with
  | none => exact .refl
  | some b =>
    cases b with
    | true => exact .single (.favor id t own)
    | false => exact .single (.disfavor id t own)

theorem rewrite_writes (now : Timestamp) (u : MerchantUpdate) {m : Merchant}
    (before : t.Owns who m.id) (own : m.owner = who.id)
    (takes : ∀ i ∈ u.pointIds.getD [], t.Takes who i) :
    Writes e who t (t.rewrite e now who m.id u m) := by
  have kept : (t.updateMerchant e m).Owns who m.id := Owns.updateMerchant before own before
  have merchants : ((t.updateMerchant e m).retag now m.id u.tagIds).merchants =
      (t.updateMerchant e m).merchants := by
    rw [retag_eq]
  have points : ((t.updateMerchant e m).retag now m.id u.tagIds).points = t.points := by
    rw [retag_eq]
    rfl
  have tagged : ((t.updateMerchant e m).retag now m.id u.tagIds).Owns who m.id :=
    owns_of_merchants merchants kept
  have pointed : (((t.updateMerchant e m).retag now m.id u.tagIds).repoint m.id u.pointIds).Owns who
      m.id := owns_of_merchants (repoint_repoints ..).merchants tagged
  rw [rewrite]
  refine .head (.rewriteMerchant m t before own) ((retag_writes now u.tagIds kept).trans ?_)
  refine (repoint_writes u.pointIds tagged ?_).trans (mark_writes u.isFavorite pointed)
  intro i hi
  refine takes_of_merchants points ?_ (takes i hi)
  intro j r hr
  rw [merchants] at hr
  exact updateMerchant_cases before own hr

end Tables

namespace Merchants

variable (who : Principal) (d : Directory)

theorem create_wrote (draft : MerchantDraft) : Wrote who d (create who draft d).2 := by
  rw [create_eq]
  refine .guarded ?_
  intro _ ok
  obtain ⟨_, _, linked⟩ := bind_eq_ok ok
  refine ⟨rfl, rfl, Tables.enroll_writes d.now draft ?_⟩
  intro i hi
  exact takes_of_linkable Tables.ownsHolder_none (forM_eq_ok_iff.1 linked i hi)

theorem update_wrote (id : Int) (u : MerchantUpdate) : Wrote who d (update who id u d).2 := by
  rw [update_eq]
  refine .guarded ?_
  intro m ok
  obtain ⟨owned, _, linked⟩ := admitUpdate_eq_ok.1 ok
  obtain rfl := id_of_ownedIn owned
  have own := owns_of_ownedIn owned
  refine ⟨rfl, rfl, Tables.rewrite_writes d.now u own (ownedIn_eq_ok owned).2 ?_⟩
  intro i hi
  exact takes_of_linkable own.ownsHolder (linked i hi)

theorem delete_wrote (id : Int) : Wrote who d (delete who id d).2 := by
  rw [delete_eq]
  refine .guarded ?_
  intro m owned
  exact ⟨rfl, rfl, .single (.expel id d.tables (owns_of_ownedIn owned))⟩

theorem find_wrote (id : Int) : Wrote who d (find who id d).2 := by
  rw [find_eq]
  refine .guarded ?_
  intro m _
  exact .refl d

end Merchants

/-! ## The calls on tags and on points -/

namespace Tags

variable (who : Principal) (d : Directory)

theorem create_wrote (draft : TagDraft) : Wrote who d (create who draft d).2 := by
  rw [create_eq]
  refine .guarded ?_
  intro _ _
  exact ⟨rfl, rfl, .single (.addTag _ d.tables rfl)⟩

theorem update_wrote (id : Int) (draft : TagDraft) : Wrote who d (update who id draft d).2 := by
  rw [update_eq]
  refine .guarded ?_
  intro tag ok
  obtain ⟨_, owned⟩ := admitUpdate_eq_ok.1 ok
  obtain ⟨old, stored, own, rfl⟩ := ownedIn_eq_ok owned
  obtain rfl := Table.key_of_get? stored
  exact ⟨rfl, rfl, .single (.rewriteTag _ old d.tables stored own own)⟩

theorem delete_wrote (id : Int) : Wrote who d (delete who id d).2 := by
  rw [delete_eq]
  refine .guarded ?_
  intro tag owned
  obtain ⟨old, stored, own, _⟩ := ownedIn_eq_ok owned
  exact ⟨rfl, rfl, .single (.removeTag id old d.tables stored own)⟩

end Tags

namespace Points

variable (who : Principal) (d : Directory)

theorem create_wrote (draft : GeoPointDraft) : Wrote who d (create who draft d).2 := by
  rw [create_eq]
  refine .guarded ?_
  intro _ ok
  obtain ⟨holder, named, own⟩ := admitCreate_eq_ok ok
  refine ⟨rfl, rfl, .single (.addPoint _ d.tables ?_)⟩
  intro m hm
  cases named.symm.trans hm
  exact own

theorem update_wrote (id : Int) (draft : GeoPointDraft) :
    Wrote who d (update who id draft d).2 := by
  rw [update_eq]
  refine .guarded ?_
  intro p ok
  obtain ⟨stored, free, holder, hp, own⟩ := admitUpdate_eq_ok ok
  obtain rfl := Table.key_of_get? stored
  refine ⟨rfl, rfl, .single (.rewritePoint _ p d.tables stored free ?_)⟩
  intro m hm
  cases hp.symm.trans hm
  exact own

theorem delete_wrote (id : Int) : Wrote who d (delete who id d).2 := by
  rw [delete_eq]
  refine .guarded ?_
  intro p accessible
  exact ⟨rfl, rfl, .single (.removePoint id d.tables (takes_of_accessibleIn accessible))⟩

end Points

/-! ## Geocoding -/

namespace Geocoding

variable {who : Principal} {d : Directory}

/-- A new point goes to nobody, and the rest is as it was. -/
theorem Saved.wrote {address source : String} {metadata : Json.Object}
    {r : Except Failure GeoPoint × Directory} (h : Saved address source metadata d r) :
    Wrote who d r.2 := by
  cases h with
  | refused e ls => exact .of_lookups d ls
  | onRecord p _ => exact .refl d
  | added answer ls r _ _ h =>
    subst h
    exact ⟨rfl, rfl, .single (.addPoint _ d.tables Tables.ownsHolder_none)⟩

theorem Saved.repoints {address source : String} {metadata : Json.Object}
    {r : Except Failure GeoPoint × Directory} (h : Saved address source metadata d r) :
    d.tables.Repoints r.2.tables := by
  cases h with
  | refused e ls => exact .refl _
  | onRecord p _ => exact .refl _
  | added answer ls r _ _ h =>
    subst h
    rfl

theorem Saved.takes {address source : String} {metadata : Json.Object} {d' : Directory}
    {p : GeoPoint} (h : Saved address source metadata d (.ok p, d')) (free : p.merchant = none) :
    d'.tables.Takes who p.id := by
  cases h with
  | onRecord _ h =>
    refine ⟨p, Table.get?_of_mem (List.mem_of_find?_eq_some h), ?_⟩
    intro m r hm
    cases free.symm.trans hm
  | added answer ls r _ _ h =>
    subst h
    refine ⟨_, Table.get?_insert_self d.tables.points _, ?_⟩
    intro m r hm
    cases hm

theorem Linked.wrote {job : Job} {r : Except Failure GeoPoint × Directory} (h : Linked job d r)
    (own : d.tables.OwnsHolder who job.merchant) : Wrote who d r.2 := by
  cases h with
  | refused e ls => exact .of_lookups d ls
  | loose p d' _ saved => exact saved.wrote
  | held m p _ _ _ => exact .refl d
  | adopted m p d' hm saved free =>
    have first : Wrote who d d' := saved.wrote
    have target : d'.tables.Owns who m := Tables.owns_of_merchants saved.repoints.merchants (own m hm)
    exact first.trans
      ⟨rfl, rfl, .single (.movePoint p.id (some m) _ (saved.takes free) target.ownsHolder)⟩
  | reused m holder p q _ _ _ _ _ _ => exact .refl d
  | copied m holder p recorded r hm _ _ _ _ _ _ h =>
    subst h
    have target : d.tables.Owns who m := own m hm
    exact ⟨rfl, rfl, .single (.addPoint _ d.tables target.ownsHolder)⟩

theorem Linked.repoints {job : Job} {r : Except Failure GeoPoint × Directory}
    (h : Linked job d r) : d.tables.Repoints r.2.tables := by
  cases h with
  | refused e ls => exact .refl _
  | loose p d' _ saved => exact saved.repoints
  | held m p _ _ _ => exact .refl _
  | adopted m p d' _ saved _ =>
    exact saved.repoints.trans (Tables.setPointMerchant_repoints p.id (some m) d'.tables)
  | reused m holder p q _ _ _ _ _ _ => exact .refl _
  | copied m holder p recorded r _ _ _ _ _ _ _ h =>
    subst h
    rfl

theorem Linked.merchants {job : Job} {r : Except Failure GeoPoint × Directory}
    (h : Linked job d r) : r.2.tables.merchants = d.tables.merchants :=
  h.repoints.merchants

theorem Saved.queue {address source : String} {metadata : Json.Object}
    {r : Except Failure GeoPoint × Directory} (h : Saved address source metadata d r) :
    r.2.queue = d.queue := by
  have wrote : Wrote default d r.2 := h.wrote
  exact wrote.queue

theorem Linked.queue {job : Job} {r : Except Failure GeoPoint × Directory}
    (h : Linked job d r) : r.2.queue = d.queue := by
  cases h with
  | refused e ls => rfl
  | loose p d' _ saved => exact saved.queue
  | held m p _ _ _ => rfl
  | adopted m p d' _ saved _ => exact saved.queue
  | reused m holder p q _ _ _ _ _ _ => rfl
  | copied m holder p recorded r _ _ _ _ _ _ _ _ => rfl

theorem Saved.engine {address source : String} {metadata : Json.Object}
    {r : Except Failure GeoPoint × Directory} (h : Saved address source metadata d r) :
    r.2.engine = d.engine := by
  have wrote : Wrote default d r.2 := h.wrote
  exact wrote.engine

theorem Linked.engine {job : Job} {r : Except Failure GeoPoint × Directory}
    (h : Linked job d r) : r.2.engine = d.engine := by
  cases h with
  | loose p d' _ saved => exact saved.engine
  | adopted m p d' _ saved _ => exact saved.engine
  | _ => rfl

/-- What saving each address keeps, a batch keeps. -/
theorem batch_keeps {P : Directory → Prop} {chain : List Provider} {source : String}
    (one : ∀ address d, P d → P (save chain address source none d).2) (addresses : List String)
    {d : Directory} (start : P d) : P (batch chain source addresses d).2 := by
  induction addresses generalizing d with
  | nil => exact start
  | cons address rest ih =>
    rw [batch]
    split
    · exact ih start
    · have saved := one address d start
      simp only [Action.bind_apply, Action.attempt_apply]
      cases hs : save chain address source none d with
      | mk r d₁ =>
        rw [hs] at saved
        have others := ih saved
        cases r with
        | ok p =>
          simp only [Action.bind_apply]
          cases hb : batch chain source rest d₁ with
          | mk r d₂ =>
            rw [hb] at others
            cases r <;> exact others
        | error e =>
          cases e with
          | crash => exact saved
          | _ => exact others

theorem batch_wrote (chain : List Provider) (source : String) (addresses : List String)
    (d : Directory) : Wrote who d (batch chain source addresses d).2 := by
  refine batch_keeps (P := Wrote who d) ?_ addresses (.refl d)
  intro address d' before
  exact before.trans (save_saved chain address source none d').wrote

end Geocoding

namespace Merchants

theorem geocode_wrote (who : Principal) (chain : Option (List Provider)) (id : Int)
    (d : Directory) : Wrote who d (geocode chain who id d).2 := by
  have done := geocode_geocoded chain who id d
  generalize geocode chain who id d = r at done
  have located {m : Merchant} {x : Except Failure GeoPoint} {d' : Directory}
      (owned : ownedIn who id d.tables = .ok m)
      (linked : Geocoding.Linked (job id m.address) d (x, d')) :
      Wrote who d d' ∧ d'.tables.Owns who m.id := by
    have own := owns_of_ownedIn owned
    obtain rfl := id_of_ownedIn owned
    exact ⟨linked.wrote own.ownsHolder, Tables.owns_of_merchants linked.merchants own⟩
  cases done with
  | refused e => exact .refl d
  | placed m p origin d' owned linked =>
    obtain ⟨wrote, own⟩ := located owned linked
    have mine := (ownedIn_eq_ok owned).2
    exact wrote.trans ⟨rfl, rfl, .single (.rewriteMerchant _ d'.tables own mine)⟩
  | unplaced m e x d' owned linked =>
    obtain ⟨wrote, own⟩ := located owned linked
    have mine := (ownedIn_eq_ok owned).2
    exact wrote.trans ⟨rfl, rfl, .single (.rewriteMerchant _ d'.tables own mine)⟩
  | crashed m x d' owned linked => exact (located owned linked).1

end Merchants

/-! ## Imports -/

namespace Import

/-- What rows of an import make of a directory: writes of the caller, who keeps every merchant and
is the one for whose merchants jobs are put into the queue. -/
structure RowsDone (who : Principal) (d d' : Directory) : Prop where
  engine : d'.engine = d.engine
  writes : Writes d.engine who d.tables d'.tables
  keeps : ∀ m, d.tables.Owns who m → d'.tables.Owns who m
  jobs : ∀ j ∈ d'.queue, j ∈ d.queue ∨ d'.tables.OwnsHolder who j.merchant

theorem RowsDone.refl (who : Principal) (d : Directory) : RowsDone who d d :=
  ⟨rfl, .refl, fun _ h => h, fun _ h => .inl h⟩

theorem RowsDone.trans {who : Principal} {d d₁ d₂ : Directory} (h₁ : RowsDone who d d₁)
    (h₂ : RowsDone who d₁ d₂) : RowsDone who d d₂ where
  engine := h₂.engine.trans h₁.engine
  writes := h₁.writes.trans (h₁.engine ▸ h₂.writes)
  keeps := fun m h => h₂.keeps m (h₁.keeps m h)
  jobs := by
    intro j hj
    obtain hj | own := h₂.jobs j hj
    · obtain hj | own := h₁.jobs j hj
      · exact .inl hj
      · exact .inr fun m hm => h₂.keeps m (own m hm)
    · exact .inr own

theorem create_made {who : Principal} {draft : MerchantDraft} {d d' : Directory} {m : Merchant}
    (h : Merchants.create who draft d = (.ok m, d')) :
    d'.tables.Owns who m.id ∧ ∀ i, d.tables.Owns who i → d'.tables.Owns who i := by
  rw [Merchants.create_eq] at h
  obtain ⟨_, _, rfl, rfl⟩ := Action.guarded_eq_ok h
  have merchants : (d.tables.enroll d.engine d.now who draft).2.merchants = _ :=
    Tables.enroll_merchants d.now draft
  refine ⟨Tables.owns_of_merchants merchants (Tables.owns_insertMerchant rfl), ?_⟩
  intro i own
  exact Tables.owns_of_merchants merchants own.insertMerchant

theorem importRow_rowsDone (i : Importer) (who : Principal) (geocoding : Bool) (r : Row)
    (d : Directory) : RowsDone who d (importRow i who geocoding r d).2 := by
  have h := importRow_done i who geocoding r d
  generalize importRow i who geocoding r d = done at h
  cases h with
  | rejected ps _ => exact .refl who d
  | imported tags m d' _ _ created =>
    have wrote := Merchants.create_wrote who d (r.draft tags)
    obtain ⟨own, keeps⟩ := create_made created
    rw [created] at wrote
    refine ⟨wrote.engine, wrote.writes, keeps, ?_⟩
    intro j hj
    obtain hj | hj := List.mem_append.1 hj
    · exact .inl (wrote.queue ▸ hj)
    · rw [jobsOf] at hj
      split at hj
      · obtain rfl := List.mem_singleton.1 hj
        exact .inr own.ownsHolder
      · cases hj

theorem importRows_rowsDone {i : Importer} {who : Principal} {geocoding : Bool}
    {columns : List Placed} {records : List (List String)} {d d' : Directory} {os : List Outcome}
    (done : importRows i who geocoding columns records d = (.ok os, d')) : RowsDone who d d' := by
  refine (importRows_each (Q := fun _ => True) ?_ (RowsDone.refl who d) done).1
  intro r d₁ o d₂ before row
  have after := importRow_rowsDone i who geocoding r d₁
  rw [row] at after
  exact ⟨before.trans after, trivial⟩

end Import

namespace Geocoding

theorem runJobs_wrote (who : Principal) (chain : List Provider) (jobs : List Job) (d : Directory)
    (own : ∀ j ∈ jobs, d.tables.OwnsHolder who j.merchant) :
    Wrote who d (runJobs chain jobs d).2 := by
  induction jobs generalizing d with
  | nil => exact .refl d
  | cons job rest ih =>
    have linked := link_linked chain job d
    rw [runJobs, Action.bind_of_ok (runJob_apply chain job d)]
    refine (linked.wrote (own job List.mem_cons_self)).trans (ih _ ?_)
    intro j hj m hm
    exact Tables.owns_of_merchants linked.merchants (own j (List.mem_cons_of_mem _ hj) m hm)

end Geocoding

/-- An import that finds no job waiting leaves none. -/
theorem ImportCommand.perform_wrote (who : Principal) (c : ImportCommand) (d : Directory)
    (idle : d.queue = []) : Wrote who d (c.perform who d).2 := by
  obtain ⟨e, he⟩ | ⟨columns, records, os, d₁, hr, hi⟩ :=
    Import.importBytes_cases c.importer who c.autoGeocode c.bytes d
  · rw [ImportCommand.perform, Action.bind_of_error he]
    exact .refl d
  · have rows := Import.importRows_rowsDone hr
    obtain ⟨d₂, hd⟩ := Geocoding.drain_ok c.schedule c.chain d₁
    have drained := Geocoding.runJobs_wrote who c.chain (c.schedule.order d₁.queue)
      { d₁ with queue := [] } ?_
    · replace drained : Wrote who _ (Geocoding.drain c.schedule c.chain d₁).2 := drained
      rw [hd] at drained
      rw [ImportCommand.perform, Action.bind_of_ok hi, Action.bind_of_ok hd]
      exact ⟨drained.engine.trans rows.engine, drained.queue.trans idle.symm,
        rows.writes.trans (rows.engine ▸ drained.writes)⟩
    · intro j hj
      obtain old | own := rows.jobs j ((c.schedule.perm d₁.queue).mem_iff.1 hj)
      · rw [idle] at old
        cases old
      · exact own

/-! ## Commands -/

/-- An address is linked to a merchant, and nobody checks whose merchant it is. -/
def Command.linksUnchecked : Command → Bool
  | .geocoding (.link _ job) => job.merchant.isSome
  | _ => false

section

variable {α : Type}

theorem map_snd (f : α → Reply) (x : Action α) (d : Directory) : ((f <$> x) d).2 = (x d).2 := by
  rw [Action.map_apply]

end

theorem MerchantCommand.perform_wrote (who : Principal) (c : MerchantCommand) (d : Directory) :
    Wrote who d (c.perform who d).2 := by
  cases c <;> rw [perform, map_snd]
  case create draft => exact Merchants.create_wrote who d draft
  case find id => exact Merchants.find_wrote who d id
  case list search paging => exact .refl d
  case update id u => exact Merchants.update_wrote who d id u
  case delete id => exact Merchants.delete_wrote who d id
  case geocode chain id => exact Merchants.geocode_wrote who chain id d

theorem TagCommand.perform_wrote (who : Principal) (c : TagCommand) (d : Directory) :
    Wrote who d (c.perform who d).2 := by
  cases c <;> rw [perform, map_snd]
  case create draft => exact Tags.create_wrote who d draft
  case find id => exact .refl d
  case list search category paging => exact .refl d
  case update id draft => exact Tags.update_wrote who d id draft
  case delete id => exact Tags.delete_wrote who d id

theorem PointCommand.perform_wrote (who : Principal) (c : PointCommand) (d : Directory) :
    Wrote who d (c.perform who d).2 := by
  cases c <;> rw [perform, map_snd]
  case create draft => exact Points.create_wrote who d draft
  case find id => exact .refl d
  case list merchant search paging => exact .refl d
  case update id draft => exact Points.update_wrote who d id draft
  case delete id => exact Points.delete_wrote who d id

theorem GeocodingCommand.perform_wrote (who : Principal) (c : GeocodingCommand) (d : Directory)
    (checked : (Command.geocoding c).linksUnchecked = false) : Wrote who d (c.perform d).2 := by
  cases c <;> rw [perform, map_snd]
  case resolve chain address =>
    obtain ⟨r, ls, h⟩ := Geocoding.resolve_asks chain address d
    rw [h]
    exact .of_lookups d ls
  case save chain address source metadata =>
    exact (Geocoding.save_saved chain address source metadata d).wrote
  case link chain job =>
    refine (Geocoding.link_linked chain job d).wrote ?_
    intro m hm
    rw [Command.linksUnchecked, hm] at checked
    cases checked
  case batch chain source addresses => exact Geocoding.batch_wrote chain source addresses d
  case nearby longitude latitude radius limit =>
    obtain ⟨r, h⟩ := Geocoding.nearby_looks longitude latitude radius limit d
    rw [h]
    exact .refl d

theorem Turn.take_wrote (t : Turn) (d : Directory) (idle : d.queue = [])
    (checked : t.command.linksUnchecked = false) : Wrote t.who d (t.take d).2 := by
  have same : Wrote t.who d { d with now := t.moment } := ⟨rfl, rfl, .refl⟩
  refine same.trans ?_
  rw [take]
  cases hc : t.command with
  | merchants c => exact c.perform_wrote t.who _
  | tags c => exact c.perform_wrote t.who _
  | points c => exact c.perform_wrote t.who _
  | geocoding c => exact c.perform_wrote t.who _ (hc ▸ checked)
  | importFile c => exact c.perform_wrote t.who _ idle

/-- Between turns no job waits. -/
theorem Turn.take_idle (t : Turn) (d : Directory) (idle : d.queue = []) :
    (t.take d).2.queue = [] := by
  cases checked : t.command.linksUnchecked with
  | false => exact (t.take_wrote d idle checked).queue.trans idle
  | true =>
    rw [take]
    cases hc : t.command with
    | geocoding c =>
      cases c with
      | link chain job =>
        rw [Command.perform, GeocodingCommand.perform, map_snd]
        exact (Geocoding.link_linked chain job _).queue.trans idle
      | _ =>
        rw [hc] at checked
        cases checked
    | _ =>
      rw [hc] at checked
      cases checked

theorem Reachable.idle {d : Directory} (h : Reachable d) : d.queue = [] :=
  h.induction (fun _ _ => rfl) Turn.take_idle

end Gazetteer
