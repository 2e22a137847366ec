import Gazetteer.Proofs.Frames
import Gazetteer.Proofs.Integrity

/-!
# Who owns the tags of a merchant

A caller names tags by their ids when a merchant is created or written over. Points named there are
looked at, tags are not: one may belong to somebody else, or not exist yet. As long as all callers
name own tags only, a merchant carries tags of its owner only, and a caller sees own tags only.

* `Tables.Uncrossed`: the tags of a merchant are stored and have its owner.
* `Tables.Retags`: what a call does to tags and relations.
* `Writes.uncrossed`: writes that retag keep tags with the owner.
* `Turn.NamesOwnTags`: the condition on a turn.
* `run_uncrossed`: what holds along every run of such turns.
-/

set_option autoImplicit false

namespace Gazetteer

namespace Tables

/-- The tag is stored and belongs to the caller. -/
def HasTag (who : Principal) (i : Int) (t : Tables) : Prop :=
  ∃ tag, t.tags.get? i = some tag ∧ tag.owner = who.id

/-- Merchant and tag of every relation are stored and have one owner. -/
def Uncrossed (t : Tables) : Prop :=
  ∀ l ∈ t.relations, ∃ m tag, t.merchants.get? l.merchant = some m ∧
    t.tags.get? l.tag = some tag ∧ tag.owner = m.owner

/-- A tag that is on a merchant keeps its owner, and a tag that is put on one is the caller's. -/
structure Retags (who : Principal) (t t' : Tables) : Prop where
  tags : ∀ l ∈ t'.relations, ∀ tag, t.tags.get? l.tag = some tag →
    ∃ tag', t'.tags.get? l.tag = some tag' ∧ tag'.owner = tag.owner
  relations : ∀ l ∈ t'.relations, l ∈ t.relations ∨ t'.HasTag who l.tag

variable {e : Engine} {who : Principal} {t t' t'' : Tables}

theorem Retags.of_same (tags : t'.tags = t.tags)
    (relations : ∀ l ∈ t'.relations, l ∈ t.relations ∨ t.HasTag who l.tag) : t.Retags who t' where
  tags := fun _ _ tag h => ⟨tag, tags ▸ h, rfl⟩
  relations := by
    intro l hl
    rw [HasTag, tags]
    exact relations l hl

/-- What is done beside tags and relations does not matter. -/
theorem Retags.congr (h : t.Retags who t') (tags : t''.tags = t'.tags)
    (relations : t''.relations = t'.relations) : t.Retags who t'' where
  tags := by
    rw [tags, relations]
    exact h.tags
  relations := by
    intro l hl
    rw [HasTag, tags]
    exact h.relations l (relations ▸ hl)

theorem Repoints.uncrossed (h : t.Repoints t') (start : t.Uncrossed) : t'.Uncrossed := by
  rw [Repoints] at h
  rw [h]
  exact start

end Tables

/-! ## Writes of a caller -/

namespace Writes

variable {e : Engine} {who : Principal} {t t' : Tables}

theorem grows (ws : Writes e who t t') : t.Grows t' :=
  ws.keeps (fun _ _ w g => g.trans w.grows) (.refl t)

/-- A merchant that is still there has the owner it had. -/
theorem merchant_kept (ws : Writes e who t t') {m : Int} {r : Merchant}
    (h : t.merchants.get? m = some r) :
    (∃ r', t'.merchants.get? m = some r' ∧ r'.owner = r.owner) ∨ t'.merchants.get? m = none := by
  have used : m ≤ t.merchants.last := by
    have bound := t.merchants.bounded r (Table.mem_of_get? h)
    rwa [Table.key_of_get? h] at bound
  induction ws with
  | refl => exact .inl ⟨r, h, rfl⟩
  | tail before w ih =>
    obtain ⟨r₁, hr₁, owner⟩ | gone := ih
    · obtain ⟨r₂, hr₂, same⟩ | forgotten := w.merchant_kept hr₁
      · exact .inl ⟨r₂, hr₂, same.trans owner⟩
      · exact .inr forgotten.merchants
    · have given := Int.le_trans used (grows before).merchants.last
      exact .inr (w.grows.merchants.get?_none given gone)

/-- Every relation names a stored merchant, which is one of the caller when the relation is new. -/
theorem relation_link (ws : Writes e who t t')
    (stored : ∀ l ∈ t.relations, ∃ r, t.merchants.get? l.merchant = some r) :
    ∀ l ∈ t'.relations, ∃ r, t'.merchants.get? l.merchant = some r ∧
      (l ∈ t.relations ∨ r.owner = who.id) := by
  induction ws with
  | refl =>
    intro l hl
    obtain ⟨r, hr⟩ := stored l hl
    exact ⟨r, hr, .inl hl⟩
  | tail _ w ih =>
    intro l hl
    obtain old | ⟨r, hr, owner⟩ := w.relation_link hl
    · obtain ⟨r, hr, link⟩ := ih l old
      obtain ⟨r', hr', same⟩ | forgotten := w.merchant_kept hr
      · exact ⟨r', hr', link.imp_right same.trans⟩
      · exact absurd rfl (forgotten.relations l hl)
    · exact ⟨r, hr, .inr owner⟩

theorem uncrossed (ws : Writes e who t t') (retags : t.Retags who t') (start : t.Uncrossed) :
    t'.Uncrossed := by
  have stored : ∀ l ∈ t.relations, ∃ r, t.merchants.get? l.merchant = some r := by
    intro l hl
    obtain ⟨m, _, hm, _⟩ := start l hl
    exact ⟨m, hm⟩
  intro l hl
  obtain ⟨r, hr, link⟩ := ws.relation_link stored l hl
  -- a relation from before has its tag from before, and its merchant is still the same one
  have old : l ∈ t.relations → ∃ m tag, t'.merchants.get? l.merchant = some m ∧
      t'.tags.get? l.tag = some tag ∧ tag.owner = m.owner := by
    intro hold
    obtain ⟨m, tag, hm, htag, one⟩ := start l hold
    obtain ⟨tag', htag', same⟩ := retags.tags l hl tag htag
    obtain ⟨m', hm', owner⟩ | gone := ws.merchant_kept hm
    · exact ⟨m', tag', hm', htag', by rw [same, one, owner]⟩
    · rw [gone] at hr
      cases hr
  obtain hold | ⟨tag, htag, mine⟩ := retags.relations l hl
  · exact old hold
  obtain hold | owner := link
  · exact old hold
  · exact ⟨r, tag, hr, htag, mine.trans owner.symm⟩

end Writes

/-! ## What the calls on merchants do to tags -/

namespace Tables

variable {e : Engine} {who : Principal} {t : Tables}

theorem linkTags_retags (now : Timestamp) {m : Int} {tags : List Int}
    (named : ∀ i ∈ tags, 0 < i → t.HasTag who i) : t.Retags who (t.linkTags now m tags) := by
  rw [linkTags_eq]
  refine .of_same rfl ?_
  intro l hl
  obtain hl | hl := List.mem_append.1 hl
  · exact .inl hl
  · obtain ⟨i, hi, rfl⟩ := List.mem_map.1 hl
    obtain ⟨mem, positive⟩ := List.mem_filter.1 hi
    exact .inr (named i mem (by simpa using positive))

theorem enroll_retags (now : Timestamp) {draft : MerchantDraft}
    (named : ∀ i ∈ draft.tagIds, 0 < i → t.HasTag who i) :
    t.Retags who (t.enroll e now who draft).2 := by
  have linked : t.Retags who (t.linkTags now t.merchants.next draft.tagIds) :=
    linkTags_retags now named
  rw [enroll_columns]
  refine linked.congr ?_ rfl
  rw [linkTags_eq]

theorem retag_retags (now : Timestamp) {id : Int} {tags : Option (List Int)}
    (named : ∀ i ∈ tags.getD [], 0 < i → t.HasTag who i) :
    t.Retags who (t.retag now id tags) := by
  cases tags with
  | none => exact .of_same rfl fun l hl => .inl hl
  | some ids =>
    have linked : (t.deleteRelationsOfMerchant id).Retags who
        ((t.deleteRelationsOfMerchant id).linkTags now id ids) := linkTags_retags now named
    refine ⟨linked.tags, ?_⟩
    intro l hl
    exact (linked.relations l hl).imp_left fun old => (List.mem_filter.1 old).1

theorem rewrite_retags (now : Timestamp) {id : Int} {u : MerchantUpdate} (m : Merchant)
    (named : ∀ i ∈ u.tagIds.getD [], 0 < i → t.HasTag who i) :
    t.Retags who (t.rewrite e now who id u m) := by
  have tagged : t.Retags who (t.retag now id u.tagIds) := retag_retags now named
  rw [rewrite_columns]
  refine tagged.congr ?_ rfl
  rw [retag_eq]

end Tables

/-! ## What a caller sees -/

/-- The tags that are shown on the merchant belong to the caller. -/
def Merchant.TagsOf (who : Principal) (m : Merchant) : Prop :=
  ∀ tag ∈ m.tags, tag.owner = who.id

/-- The merchants that a reply shows. -/
def Reply.merchantsShown : Reply → List Merchant
  | .merchant m => [m]
  | .merchants page => page.items
  | .report r => r.items
  | _ => []

def Reply.OwnTags (who : Principal) (r : Reply) : Prop :=
  ∀ m ∈ r.merchantsShown, m.TagsOf who

namespace Tables

variable {e : Engine} {who : Principal} {t : Tables}

theorem Uncrossed.tagged (h : t.Uncrossed) {ids : List Int} {p : Int × Tag}
    (hp : p ∈ t.tagged ids) (own : t.Owns who p.1) : p.2.owner = who.id := by
  obtain ⟨l, hl, hp⟩ := List.mem_filterMap.1 hp
  obtain ⟨tag, htag, rfl⟩ := Option.map_eq_some_iff.1 hp
  obtain ⟨m, tag', hm, htag', same⟩ := h l (List.mem_filter.1 hl).1
  obtain ⟨r, hr, owner⟩ := own
  cases htag.symm.trans htag'
  cases hm.symm.trans hr
  exact same.trans owner

theorem fst_mem_of_tagged {ids : List Int} {p : Int × Tag} (hp : p ∈ t.tagged ids) :
    p.1 ∈ ids := by
  obtain ⟨l, hl, hp⟩ := List.mem_filterMap.1 hp
  obtain ⟨tag, _, rfl⟩ := Option.map_eq_some_iff.1 hp
  simpa using (List.mem_filter.1 hl).2

theorem Uncrossed.detailed (h : t.Uncrossed) {m : Merchant} (own : t.Owns who m.id) :
    (t.detailed who m).TagsOf who := by
  intro tag htag
  obtain ⟨p, hp, rfl⟩ := List.mem_map.1 htag
  have holder : p.1 = m.id := by simpa using fst_mem_of_tagged hp
  exact h.tagged hp (holder ▸ own)

theorem Uncrossed.allDetailed (h : t.Uncrossed) {ms : List Merchant}
    (own : ∀ m ∈ ms, t.Owns who m.id) : ∀ m ∈ t.allDetailed who ms, m.TagsOf who := by
  intro m hm tag htag
  obtain ⟨row, hrow, rfl⟩ := List.mem_map.1 hm
  obtain ⟨p, hp, rfl⟩ := List.mem_map.1 htag
  obtain ⟨hp, holder⟩ := List.mem_filter.1 hp
  have holder : p.1 = row.id := by simpa using holder
  exact h.tagged hp (holder ▸ own row hrow)

end Tables

namespace Engine

variable {α : Type} {e : Engine} {rows : List α} {r : α}

theorem mem_of_select {search : String} {texts : α → List String} {found : List α}
    (h : e.select search texts rows = .ok found) (hr : r ∈ found) : r ∈ rows := by
  cases e with
  | memory =>
    cases h
    exact (List.mem_filter.1 hr).1
  | sqlite =>
    simp only [select] at h
    split at h
    · cases h
    · cases h
      exact (List.mem_filter.1 hr).1

theorem mem_of_page {p : Paging} (h : r ∈ e.page p rows) : r ∈ rows := by
  cases e with
  | memory =>
    rw [page, Paging.cut] at h
    split at h
    · exact List.mem_of_mem_drop (List.mem_of_mem_take h)
    · exact h
  | sqlite =>
    simp only [page, Paging.boundedCut, Paging.keepSigned] at h
    split at h
    · exact List.mem_of_mem_drop h
    · exact List.mem_of_mem_drop (List.mem_of_mem_take h)

end Engine

theorem Tables.owns_of_findMerchants {e : Engine} {who : Principal} {search : String}
    {paging : Paging} {t : Tables} {ms : List Merchant} {n : Nat}
    (h : t.findMerchants e who.id search paging = .ok (ms, n)) : ∀ m ∈ ms, t.Owns who m.id := by
  obtain ⟨found, selected, done⟩ := bind_eq_ok h
  cases done
  intro m hm
  have among := Engine.mem_of_select selected (Engine.mem_of_page hm)
  obtain ⟨stored, owner⟩ := List.mem_filter.1 among
  exact ⟨m, Table.get?_of_mem stored, by simpa using owner⟩

/-! ## The calls on merchants -/

namespace Merchants

variable {who : Principal} {d : Directory}

/-- A guarded call is refused, or what holds after its effect holds. -/
theorem guarded_uncrossed {α : Type} {decision : Directory → Except Failure α}
    {effect : α → Directory → Merchant × Directory} (start : d.tables.Uncrossed)
    (done : ∀ a, decision d = .ok a →
      (effect a d).2.tables.Uncrossed ∧ (effect a d).1.TagsOf who) :
    (Action.guarded decision effect d).2.tables.Uncrossed ∧
      ∀ m, (Action.guarded decision effect d).1 = .ok m → m.TagsOf who := by
  obtain ⟨e, _, refused⟩ | ⟨a, ok, answered⟩ := Action.guarded_cases decision effect d
  · rw [refused]
    exact ⟨start, fun _ h => nomatch h⟩
  · rw [answered]
    obtain ⟨uncrossed, tags⟩ := done a ok
    refine ⟨uncrossed, ?_⟩
    rintro m ⟨⟩
    exact tags

theorem create_uncrossed (draft : MerchantDraft)
    (named : ∀ i ∈ draft.tagIds, 0 < i → d.tables.HasTag who i) (start : d.tables.Uncrossed) :
    (create who draft d).2.tables.Uncrossed ∧
      ∀ m, (create who draft d).1 = .ok m → m.TagsOf who := by
  have wrote := create_wrote who d draft
  rw [create_eq] at wrote ⊢
  refine guarded_uncrossed start ?_
  intro _ ok
  rw [Action.guarded_of_ok ok] at wrote
  have uncrossed : (d.tables.enroll d.engine d.now who draft).2.Uncrossed :=
    wrote.writes.uncrossed (Tables.enroll_retags d.now named) start
  have own : (d.tables.enroll d.engine d.now who draft).2.Owns who d.tables.merchants.next :=
    Tables.owns_of_merchants (Tables.enroll_merchants d.now draft) (Tables.owns_insertMerchant rfl)
  exact ⟨uncrossed, uncrossed.detailed own⟩

theorem find_uncrossed (who : Principal) (id : Int) (start : d.tables.Uncrossed) :
    (find who id d).2.tables.Uncrossed ∧ ∀ m, (find who id d).1 = .ok m → m.TagsOf who := by
  rw [find_eq]
  refine guarded_uncrossed start ?_
  intro m owned
  exact ⟨start, start.detailed (id_of_ownedIn owned ▸ owns_of_ownedIn owned)⟩

theorem list_uncrossed {search : String} {paging : Paging} (start : d.tables.Uncrossed)
    {page : Page Merchant} (h : (list who search paging d).1 = .ok page) :
    ∀ m ∈ page.items, m.TagsOf who := by
  obtain ⟨⟨ms, n⟩, found, done⟩ := bind_eq_ok h
  cases done
  exact start.allDetailed (Tables.owns_of_findMerchants found)

theorem update_uncrossed (id : Int) {u : MerchantUpdate}
    (named : ∀ i ∈ u.tagIds.getD [], 0 < i → d.tables.HasTag who i) (start : d.tables.Uncrossed) :
    (update who id u d).2.tables.Uncrossed ∧
      ∀ m, (update who id u d).1 = .ok m → m.TagsOf who := by
  have wrote := update_wrote who d id u
  rw [update_eq] at wrote ⊢
  refine guarded_uncrossed start ?_
  intro m ok
  rw [Action.guarded_of_ok ok] at wrote
  obtain ⟨owned, _, _⟩ := admitUpdate_eq_ok.1 ok
  have uncrossed :
      (d.tables.rewrite d.engine d.now who id u (m.apply d.now u.fields)).Uncrossed :=
    wrote.writes.uncrossed (Tables.rewrite_retags d.now _ named) start
  have before : d.tables.Owns who m.id := id_of_ownedIn owned ▸ owns_of_ownedIn owned
  have merchants : (d.tables.rewrite d.engine d.now who id u (m.apply d.now u.fields)).merchants =
      (d.tables.updateMerchant d.engine (m.apply d.now u.fields)).merchants := by
    rw [Tables.rewrite_columns]
  have own : (d.tables.rewrite d.engine d.now who id u (m.apply d.now u.fields)).Owns who m.id :=
    Tables.owns_of_merchants merchants
      (Tables.Owns.updateMerchant before (ownedIn_eq_ok owned).2 before)
  exact ⟨uncrossed, uncrossed.detailed own⟩

theorem delete_uncrossed (id : Int) (start : d.tables.Uncrossed) :
    (delete who id d).2.tables.Uncrossed := by
  have wrote := delete_wrote who d id
  refine wrote.writes.uncrossed ?_ start
  rw [delete_eq]
  refine Action.guarded_keeps (P := fun d' => d.tables.Retags who d'.tables)
    (.of_same rfl fun _ hl => .inl hl) ?_
  intro m _
  exact .of_same rfl fun l hl => .inl (List.mem_filter.1 hl).1

end Merchants

namespace Merchants

variable {who : Principal} {d : Directory}

theorem geocode_uncrossed (who : Principal) (chain : Option (List Provider)) (id : Int)
    (start : d.tables.Uncrossed) : (geocode chain who id d).2.tables.Uncrossed ∧
      ∀ m, (geocode chain who id d).1 = .ok m → m.TagsOf who := by
  have done := geocode_geocoded chain who id d
  generalize geocode chain who id d = r at done
  -- the row is written over once its address was linked, which leaves merchants and tags alone
  have rewritten {m : Merchant} (new : Merchant) {x : Except Failure GeoPoint} {d' : Directory}
      (owned : ownedIn who id d.tables = .ok m) (linked : Geocoding.Linked (job id m.address) d (x, d'))
      (same : new.id = m.id ∧ new.owner = m.owner) :
      (d'.tables.updateMerchant d'.engine new).Uncrossed ∧
        (d'.tables.updateMerchant d'.engine new).Owns who new.id := by
    have before : d'.tables.Owns who new.id := by
      rw [same.1, id_of_ownedIn owned]
      exact Tables.owns_of_merchants linked.merchants (owns_of_ownedIn owned)
    have mine : new.owner = who.id := same.2.trans (ownedIn_eq_ok owned).2
    have write : Write d'.engine who d'.tables (d'.tables.updateMerchant d'.engine new) :=
      .rewriteMerchant new d'.tables before mine
    have kept := linked.repoints.uncrossed start
    exact ⟨write.writes.uncrossed (.of_same rfl fun _ hl => .inl hl) kept,
      Tables.Owns.updateMerchant before mine before⟩
  cases done with
  | refused e => exact ⟨start, fun _ h => nomatch h⟩
  | placed m p origin d' owned linked =>
    obtain ⟨uncrossed, own⟩ := rewritten (placedAt (tried m) p origin) owned linked ⟨rfl, rfl⟩
    refine ⟨uncrossed, ?_⟩
    rintro m' ⟨⟩
    exact uncrossed.detailed own
  | unplaced m e x d' owned linked =>
    obtain ⟨uncrossed, _⟩ := rewritten (unresolved (tried m) e) owned linked ⟨rfl, rfl⟩
    exact ⟨uncrossed, fun _ h => nomatch h⟩
  | crashed m x d' owned linked => exact ⟨linked.repoints.uncrossed start, fun _ h => nomatch h⟩

end Merchants

/-! ## The calls on tags -/

theorem TagCommand.perform_uncrossed (who : Principal) (c : TagCommand) {d : Directory}
    (start : d.tables.Uncrossed) : (c.perform who d).2.tables.Uncrossed := by
  have wrote := c.perform_wrote who d
  refine wrote.writes.uncrossed ?_ start
  let P : Directory → Prop := fun d' => d.tables.Retags who d'.tables
  have same : P d := .of_same rfl fun _ hl => .inl hl
  cases c <;> rw [perform, map_snd]
  case create draft =>
    rw [Tags.create_eq]
    refine Action.guarded_keeps same ?_
    intro _ _
    refine ⟨?_, fun _ hl => .inl hl⟩
    intro l _ tag h
    have old : l.tag ≠ d.tables.tags.next := by
      have bound := d.tables.tags.bounded tag (Table.mem_of_get? h)
      rw [Table.key_of_get? h] at bound
      rw [Table.next]
      omega
    exact ⟨tag, ((Table.get?_insert d.tables.tags _ _).trans (if_neg old)).trans h, rfl⟩
  case find id => exact same
  case list search category paging => exact same
  case update id draft =>
    rw [Tags.update_eq]
    refine Action.guarded_keeps same ?_
    intro tag ok
    obtain ⟨_, owned⟩ := Tags.admitUpdate_eq_ok.1 ok
    obtain ⟨old, stored, _, rfl⟩ := Tags.ownedIn_eq_ok owned
    refine ⟨?_, fun _ hl => .inl hl⟩
    intro l _ tag h
    refine ⟨_, (Table.get?_modify d.tables.tags _ _ _).trans (congrArg _ h), ?_⟩
    rw [Table.changed]
    split
    · next hk =>
      have found := Table.key_of_get? h
      have one : old.id = id := Table.key_of_get? stored
      have target : l.tag = id := found.symm.trans (hk.trans one)
      rw [target, stored] at h
      cases h
      cases d.engine <;> rfl
    · rfl
  case delete id =>
    rw [Tags.delete_eq]
    refine Action.guarded_keeps same ?_
    intro _ _
    refine ⟨?_, fun l hl => .inl (List.mem_filter.1 hl).1⟩
    intro l hl tag h
    have other : l.tag ≠ id := by simpa using (List.mem_filter.1 hl).2
    exact ⟨tag, ((Table.get?_erase d.tables.tags _ _).trans (if_neg other)).trans h, rfl⟩

/-! ## Imports -/

namespace Import

variable {i : Importer} {who : Principal} {d d' : Directory}

/-- Tags are looked up by name among those of the caller. -/
theorem hasTag_of_tagIds {names : List String} {t : Tables} {tags : List Int}
    (h : tagIds i who names t = .ok tags) : ∀ id ∈ tags, t.HasTag who id := by
  rw [tagIds] at h
  split at h
  · cases h
    simp
  · split at h
    · cases h
    · cases h
      intro id hid
      obtain ⟨tag, htag, rfl⟩ := List.mem_map.1 hid
      obtain ⟨stored, wanted⟩ := List.mem_filter.1 htag
      have owner : tag.owner = who.id := by
        simp only [Bool.and_eq_true, decide_eq_true_eq] at wanted
        exact wanted.1
      exact ⟨tag, Table.get?_of_mem stored, owner⟩

theorem importRow_uncrossed {geocoding : Bool} {r : Row} {o : Outcome} (start : d.tables.Uncrossed)
    (h : importRow i who geocoding r d = (.ok o, d')) :
    d'.tables.Uncrossed ∧ ∀ m, o = .imported m → m.TagsOf who := by
  have done := importRow_done i who geocoding r d
  rw [h] at done
  cases done with
  | rejected ps _ => exact ⟨start, fun _ h => nomatch h⟩
  | imported tags m d' _ named created =>
    obtain ⟨uncrossed, own⟩ := Merchants.create_uncrossed (r.draft tags)
      (fun id hid _ => hasTag_of_tagIds named id hid) start
    rw [created] at uncrossed own
    refine ⟨uncrossed, ?_⟩
    rintro m' ⟨⟩
    exact own m rfl

end Import

theorem ImportCommand.perform_uncrossed (who : Principal) (c : ImportCommand) {d : Directory}
    (start : d.tables.Uncrossed) : (c.perform who d).2.tables.Uncrossed ∧
      ∀ reply, (c.perform who d).1 = .ok reply → reply.OwnTags who := by
  obtain ⟨uncrossed, own⟩ :
      (Import.importBytes c.importer who c.autoGeocode c.bytes d).2.tables.Uncrossed ∧
        ∀ report, (Import.importBytes c.importer who c.autoGeocode c.bytes d).1 = .ok report →
          ∀ m ∈ report.items, m.TagsOf who :=
    Import.importBytes_each (P := fun d => d.tables.Uncrossed)
      (fun _ _ _ _ before row => Import.importRow_uncrossed before row) c.bytes start
  rw [perform, Action.bind_apply]
  cases hi : Import.importBytes c.importer who c.autoGeocode c.bytes d with
  | mk r d₁ =>
    rw [hi] at uncrossed own
    cases r with
    | error e =>
      refine ⟨uncrossed, ?_⟩
      intro _ answered
      cases answered
    | ok report =>
      obtain ⟨d₂, hd⟩ := Geocoding.drain_ok c.schedule c.chain d₁
      have drained : d₁.tables.Repoints (Geocoding.drain c.schedule c.chain d₁).2.tables :=
        Geocoding.runJobs_repoints c.chain (c.schedule.order d₁.queue) { d₁ with queue := [] }
      rw [hd] at drained
      simp only [Action.bind_of_ok hd]
      refine ⟨drained.uncrossed uncrossed, ?_⟩
      rintro reply ⟨⟩
      exact own report rfl

/-! ## Runs -/

/-- The ids of the tags that a call names. -/
def Command.tagsNamed : Command → List Int
  | .merchants (.create draft) => draft.tagIds
  | .merchants (.update _ u) => u.tagIds.getD []
  | _ => []

/-- The tags that the turn names, apart from the ids that are passed over, are stored and belong to
whoever takes the turn. -/
def Turn.NamesOwnTags (t : Turn) (d : Directory) : Prop :=
  ∀ i ∈ t.command.tagsNamed, 0 < i → d.tables.HasTag t.who i

theorem map_eq_ok {α : Type} {f : α → Reply} {x : Except Failure α} {reply : Reply}
    (h : x.map f = .ok reply) : ∃ a, x = .ok a ∧ reply = f a := by
  cases x with
  | error e => cases h
  | ok a => exact ⟨a, rfl, (Except.ok.inj h).symm⟩

theorem Reply.ownTags_of_map {who : Principal} {x : Except Failure Merchant} {reply : Reply}
    (own : ∀ m, x = .ok m → m.TagsOf who) (h : x.map .merchant = .ok reply) :
    reply.OwnTags who := by
  obtain ⟨m, hm, rfl⟩ := map_eq_ok h
  intro m' hm'
  obtain rfl := List.mem_singleton.1 hm'
  exact own _ hm

theorem Reply.ownTags_of_hidden {who : Principal} {r : Reply} (h : r.merchantsShown = []) :
    r.OwnTags who := by
  intro m hm
  rw [h] at hm
  cases hm

theorem MerchantCommand.perform_uncrossed {who : Principal} {c : MerchantCommand} {d : Directory}
    (named : ∀ i ∈ (Command.merchants c).tagsNamed, 0 < i → d.tables.HasTag who i)
    (start : d.tables.Uncrossed) : (c.perform who d).2.tables.Uncrossed ∧
      ∀ reply, (c.perform who d).1 = .ok reply → reply.OwnTags who := by
  cases c <;> simp only [perform, Action.map_apply]
  case create draft =>
    obtain ⟨kept, own⟩ := Merchants.create_uncrossed draft named start
    exact ⟨kept, fun _ h => Reply.ownTags_of_map own h⟩
  case find id =>
    obtain ⟨kept, own⟩ := Merchants.find_uncrossed who id start
    exact ⟨kept, fun _ h => Reply.ownTags_of_map own h⟩
  case list search paging =>
    refine ⟨start, ?_⟩
    intro reply h
    obtain ⟨page, hp, rfl⟩ := map_eq_ok h
    exact Merchants.list_uncrossed start hp
  case update id u =>
    obtain ⟨kept, own⟩ := Merchants.update_uncrossed id named start
    exact ⟨kept, fun _ h => Reply.ownTags_of_map own h⟩
  case delete id =>
    refine ⟨Merchants.delete_uncrossed id start, ?_⟩
    intro reply h
    obtain ⟨_, _, rfl⟩ := map_eq_ok h
    exact Reply.ownTags_of_hidden rfl
  case geocode chain id =>
    obtain ⟨kept, own⟩ := Merchants.geocode_uncrossed who chain id start
    exact ⟨kept, fun _ h => Reply.ownTags_of_map own h⟩

/-! The calls on tags, points and addresses show no merchant. -/

theorem TagCommand.reply_hidden {who : Principal} {c : TagCommand} {d : Directory} {reply : Reply}
    (h : (c.perform who d).1 = .ok reply) : reply.merchantsShown = [] := by
  cases c <;> rw [perform, Action.map_apply] at h <;> obtain ⟨_, _, rfl⟩ := map_eq_ok h <;> rfl

theorem PointCommand.reply_hidden {who : Principal} {c : PointCommand} {d : Directory}
    {reply : Reply} (h : (c.perform who d).1 = .ok reply) : reply.merchantsShown = [] := by
  cases c <;> rw [perform, Action.map_apply] at h <;> obtain ⟨_, _, rfl⟩ := map_eq_ok h <;> rfl

theorem GeocodingCommand.reply_hidden {c : GeocodingCommand} {d : Directory} {reply : Reply}
    (h : (c.perform d).1 = .ok reply) : reply.merchantsShown = [] := by
  cases c <;> rw [perform, Action.map_apply] at h <;> obtain ⟨_, _, rfl⟩ := map_eq_ok h <;> rfl

theorem Turn.take_uncrossed {t : Turn} {d : Directory} (named : t.NamesOwnTags d)
    (start : d.tables.Uncrossed) : (t.take d).2.tables.Uncrossed ∧
      ∀ reply, (t.take d).1 = .ok reply → reply.OwnTags t.who := by
  rw [NamesOwnTags] at named
  rw [take]
  have ready : ({ d with now := t.moment } : Directory).tables.Uncrossed := start
  cases hc : t.command with
  | merchants c =>
    rw [hc] at named
    exact MerchantCommand.perform_uncrossed named ready
  | tags c =>
    have kept := c.perform_uncrossed t.who ready
    exact ⟨kept, fun _ h => Reply.ownTags_of_hidden (TagCommand.reply_hidden h)⟩
  | points c =>
    have kept := (c.perform_repoints t.who { d with now := t.moment }).uncrossed ready
    exact ⟨kept, fun _ h => Reply.ownTags_of_hidden (PointCommand.reply_hidden h)⟩
  | geocoding c =>
    have kept := (c.perform_repoints { d with now := t.moment }).uncrossed ready
    exact ⟨kept, fun _ h => Reply.ownTags_of_hidden (GeocodingCommand.reply_hidden h)⟩
  | importFile c => exact c.perform_uncrossed t.who ready

/-- Along every run from an empty directory in which callers name own tags only, every tag on a
merchant is stored and has the owner of the merchant, and every reply shows own tags only. -/
theorem run_uncrossed (engine : Engine) (moment : Timestamp) (turns : List Turn)
    (named : ∀ early t late, turns = early ++ t :: late →
      t.NamesOwnTags (run early (.empty engine moment))) :
    let start := Directory.empty engine moment
    (run turns start).tables.Uncrossed ∧
    ∀ early t late reply, turns = early ++ t :: late →
      (t.take (run early start)).1 = .ok reply → reply.OwnTags t.who := by
  intro start
  have sofar : ∀ early late, turns = early ++ late → (run early start).tables.Uncrossed := by
    intro early
    induction early using List.reverseRecOn with
    | nil =>
      intro late _ l hl
      cases hl
    | append_singleton early t ih =>
      intro late split
      have whole : turns = early ++ t :: late := by rw [split, List.append_assoc]; rfl
      have before := ih (t :: late) whole
      rw [run_append]
      exact (Turn.take_uncrossed (named early t late whole) before).1
  refine ⟨sofar turns [] (List.append_nil _).symm, ?_⟩
  intro early t late reply split answered
  have before := sofar early (t :: late) split
  exact (Turn.take_uncrossed (named early t late split) before).2 reply answered

/-- A tag is made and put on a new merchant. -/
theorem own_tag_shown :
    let ada : Principal := ⟨1, "ada"⟩
    let shop : MerchantFields := { MerchantFields.blank with title := "Shop" }
    let turns : List Turn := [
      ⟨ada, default, .tags (.create ⟨"vip", "", "", "owes money", ""⟩)⟩,
      ⟨ada, default, .merchants (.create ⟨shop, [1], [], false⟩)⟩]
    (run turns (.empty .memory default)).tables.Uncrossed := by
  intro ada shop turns
  have named : ∀ early t late, turns = early ++ t :: late →
      t.NamesOwnTags (run early (.empty .memory default)) := by
    intro early t late split
    match early with
    | [] =>
      obtain ⟨rfl, _⟩ := List.cons.inj split
      intro i hi _
      cases hi
    | [_] =>
      obtain ⟨rfl, rest⟩ := List.cons.inj split
      obtain ⟨rfl, _⟩ := List.cons.inj rest
      intro i hi _
      obtain rfl := List.mem_singleton.1 hi
      exact ⟨_, rfl, rfl⟩
    | _ :: _ :: _ => simp [turns] at split
  exact (run_uncrossed .memory default turns named).1

/-- Somebody else puts the tag on a merchant, and is shown what its owner wrote. -/
theorem foreign_tag_shown :
    let vip : Turn := ⟨⟨1, "ada"⟩, default, .tags (.create ⟨"vip", "", "", "owes money", ""⟩)⟩
    let shop : MerchantFields := { MerchantFields.blank with title := "Shop" }
    let create : Turn := ⟨⟨2, "bob"⟩, default, .merchants (.create ⟨shop, [1], [], false⟩)⟩
    let start := Directory.empty .memory default
    ¬(run [vip, create] start).tables.Uncrossed ∧
      ∃ reply, (create.take (run [vip] start)).1 = .ok reply ∧ ¬reply.OwnTags create.who := by
  intro vip shop create start
  have relations : (run [vip, create] start).tables.relations.map (fun l => (l.merchant, l.tag)) =
      [(1, 1)] := by decide +kernel
  have holder : ((run [vip, create] start).tables.merchants.get? 1).map Merchant.owner =
      some 2 := by decide +kernel
  have owner : ((run [vip, create] start).tables.tags.get? 1).map Tag.owner = some 1 := by
    decide +kernel
  have shown : (create.take (run [vip] start)).1.toOption.map (fun r =>
      r.merchantsShown.map fun m => m.tags.map Tag.owner) = some [[1]] := by decide +kernel
  refine ⟨?_, ?_⟩
  · intro uncrossed
    obtain ⟨l, hl, ends⟩ := List.mem_map.1 (relations ▸ List.mem_singleton_self (1, 1))
    obtain ⟨m, tag, hm, htag, same⟩ := uncrossed l hl
    obtain ⟨merchant, tagged⟩ := Prod.mk.inj ends
    rw [merchant] at hm
    rw [tagged] at htag
    rw [hm] at holder
    rw [htag] at owner
    have : tag.owner = 1 := Option.some.inj owner
    have : m.owner = 2 := Option.some.inj holder
    omega
  · obtain ⟨reply, answered, shows⟩ := Option.map_eq_some_iff.1 shown
    refine ⟨reply, ?_, ?_⟩
    · generalize (create.take _).1 = x at answered ⊢
      cases x with
      | error e => cases answered
      | ok r => exact congrArg Except.ok (Option.some.inj answered)
    · intro own
      obtain ⟨m, hm, owners⟩ := List.mem_map.1 (shows ▸ List.mem_singleton_self [1])
      obtain ⟨tag, htag, one⟩ := List.mem_map.1 (owners ▸ List.mem_singleton_self 1)
      have mine : tag.owner = 2 := own m hm tag htag
      omega

end Gazetteer
