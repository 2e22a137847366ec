import Gazetteer.Proofs.TablesAlike

/-!
# Calls on directories that look the same

A call answers alike and leaves directories that look the same, when the two it starts from do. This
is said once for each way in which calls are composed and then for each call.

* `Alike`: two results that look the same.
* `Alike.guarded`, `Alike.bind`, ...: the ways of composing calls.
* `create_alike`, `link_alike`, ...: the calls.
-/

set_option autoImplicit false

namespace Gazetteer

/-! ## Directories with one view -/

theorem merchant_payload {m m' : Merchant} (h : m.bare = m'.bare) :
    EventPayload.bare (.merchant m) = EventPayload.bare (.merchant m') :=
  congrArg EventPayload.merchant h

theorem tag_payload {tag tag' : Tag} (h : tag.timeless = tag'.timeless) :
    EventPayload.bare (.tag tag) = EventPayload.bare (.tag tag') :=
  congrArg EventPayload.tag h

theorem point_payload {p p' : GeoPoint} (h : p.bare = p'.bare) :
    EventPayload.bare (.point p) = EventPayload.bare (.point p') :=
  congrArg EventPayload.point h

namespace Directory

variable {d d' : Directory}

theorem tables_of_view (h : d.view = d'.view) : d.tables.view = d'.tables.view := by
  show d.view.tables = d'.view.tables
  rw [h]

theorem lookups_of_view (h : d.view = d'.view) : d.lookups = d'.lookups := by
  show d.view.lookups = d'.view.lookups
  rw [h]

theorem queue_of_view (h : d.view = d'.view) : d.queue = d'.queue := by
  show d.view.queue = d'.view.queue
  rw [h]

theorem view_tables (h : d.view = d'.view) {t t' : Tables} (ht : t.view = t'.view) :
    view { d with tables := t } = view { d' with tables := t' } := by
  show { d.view with tables := t.view } = { d'.view with tables := t'.view }
  rw [h, ht]

theorem view_lookups (h : d.view = d'.view) (ls : List Lookup) :
    view { d with lookups := ls } = view { d' with lookups := ls } := by
  show { d.view with lookups := ls } = { d'.view with lookups := ls }
  rw [h]

theorem view_queue (h : d.view = d'.view) (jobs : List Job) :
    view { d with queue := jobs } = view { d' with queue := jobs } := by
  show { d.view with queue := jobs } = { d'.view with queue := jobs }
  rw [h]

theorem after_alike (h : d.view = d'.view) {t t' : Tables} (ht : t.view = t'.view)
    (kind : EventKind) {p p' : EventPayload} (hp : p.bare = p'.bare) (who : Principal) :
    (d.after t kind p who).view = (d'.after t' kind p' who).view := by
  have after : ∀ (d : Directory) (t : Tables) (p : EventPayload), (d.after t kind p who).view =
      { d.view with tables := t.view, events := d.view.events ++ [⟨kind, p.bare, who⟩] } := by
    intro d t p
    rw [Directory.after, view, List.map_append]
    rfl
  rw [after, after, h, ht, hp]

theorem announcing_alike (h : d.view = d'.view) {t t' : Tables} (ht : t.view = t'.view)
    (kind : EventKind) (who : Principal) {m m' : Merchant} (hm : m.bare = m'.bare) :
    (d.announcing kind who m t).1.bare = (d'.announcing kind who m' t').1.bare ∧
      (d.announcing kind who m t).2.view = (d'.announcing kind who m' t').2.view := by
  have seen : (t.detailed who m).bare = (t'.detailed who m').bare := by
    rw [Tables.bare_detailed, Tables.bare_detailed, ht, hm]
  exact ⟨seen, after_alike h ht kind (merchant_payload seen) who⟩

end Directory

/-! ## Results that look the same -/

/-- The same failure, or answers that are the same under a map, and directories with one view. -/
structure Alike {α γ : Type} (f : α → γ) (r r' : Except Failure α × Directory) : Prop where
  answer : r.1.map f = r'.1.map f
  state : r.2.view = r'.2.view

theorem map_eq_cases {ε α γ : Type} {f : α → γ} {r r' : Except ε α} (h : r.map f = r'.map f) :
    (∃ a a', r = .ok a ∧ r' = .ok a' ∧ f a = f a') ∨ ∃ e, r = .error e ∧ r' = .error e := by
  cases r with
  | ok a =>
    cases r' with
    | ok a' => exact .inl ⟨a, a', rfl, rfl, Except.ok.inj h⟩
    | error e => cases h
  | error e =>
    cases r' with
    | ok a' => cases h
    | error e' =>
      cases h
      exact .inr ⟨e, rfl, rfl⟩

namespace Alike

variable {α β γ δ : Type} {f : α → γ} {g : β → δ} {d d' : Directory}

theorem ok {a a' : α} (ha : f a = f a') (h : d.view = d'.view) :
    Alike f (.ok a, d) (.ok a', d') :=
  ⟨congrArg Except.ok ha, h⟩

theorem error (e : Failure) (h : d.view = d'.view) : Alike f (.error e, d) (.error e, d') :=
  ⟨rfl, h⟩

/-- A decision comes to the same, and so does what follows a good one. -/
theorem guarded {decision decision' : Directory → Except Failure α}
    {effect effect' : α → Directory → β × Directory} (h : d.view = d'.view)
    (decided : (decision d).map f = (decision' d').map f)
    (effects : ∀ a a', decision d = .ok a → decision' d' = .ok a' → f a = f a' →
      g (effect a d).1 = g (effect' a' d').1 ∧ (effect a d).2.view = (effect' a' d').2.view) :
    Alike g (Action.guarded decision effect d) (Action.guarded decision' effect' d') := by
  obtain ⟨a, a', ha, ha', same⟩ | ⟨e, he, he'⟩ := map_eq_cases decided
  · obtain ⟨answer, state⟩ := effects a a' ha ha' same
    rw [Action.guarded_of_ok ha, Action.guarded_of_ok ha']
    exact .ok answer state
  · rw [Action.guarded_of_error he, Action.guarded_of_error he']
    exact .error e h

theorem bind {x x' : Action α} {k k' : α → Action β} (hx : Alike f (x d) (x' d'))
    (hk : ∀ a a' d₁ d₁', x d = (.ok a, d₁) → x' d' = (.ok a', d₁') → f a = f a' →
      d₁.view = d₁'.view → Alike g (k a d₁) (k' a' d₁')) :
    Alike g ((x >>= k) d) ((x' >>= k') d') := by
  obtain ⟨answer, state⟩ := hx
  cases hr : x d with
  | mk r d₁ =>
    cases hr' : x' d' with
    | mk r' d₁' =>
      rw [hr, hr'] at answer state
      obtain ⟨a, a', ha, ha', same⟩ | ⟨e, he, he'⟩ := map_eq_cases answer
      · obtain rfl : r = .ok a := ha
        obtain rfl : r' = .ok a' := ha'
        rw [Action.bind_of_ok hr, Action.bind_of_ok hr']
        exact hk a a' d₁ d₁' hr hr' same state
      · obtain rfl : r = .error e := he
        obtain rfl : r' = .error e := he'
        rw [Action.bind_of_error hr, Action.bind_of_error hr']
        exact .error e state

theorem map {x : Action α} {k : α → β} (hx : Alike f (x d) (x d'))
    (hk : ∀ a a', f a = f a' → g (k a) = g (k a')) :
    Alike g ((k <$> x) d) ((k <$> x) d') := by
  rw [Action.map_apply, Action.map_apply]
  refine ⟨?_, hx.state⟩
  obtain ⟨a, a', ha, ha', same⟩ | ⟨e, he, he'⟩ := map_eq_cases hx.answer
  · rw [ha, ha']
    exact congrArg Except.ok (hk a a' same)
  · rw [he, he']

theorem attempt {x x' : Action α} (hx : Alike f (x d) (x' d')) :
    Alike (Except.map f) (Action.attempt x d) (Action.attempt x' d') :=
  ⟨congrArg Except.ok hx.answer, hx.state⟩

theorem ofExcept {x x' : Except Failure α} (hx : x.map f = x'.map f) (h : d.view = d'.view) :
    Alike f (Action.ofExcept x d) (Action.ofExcept x' d') := ⟨hx, h⟩

theorem read {k : Directory → α} (hk : f (k d) = f (k d')) (h : d.view = d'.view) :
    Alike f (Action.read k d) (Action.read k d') := .ok hk h

theorem check {k : Directory → Except Failure α} (hk : (k d).map f = (k d').map f)
    (h : d.view = d'.view) : Alike f (Action.check k d) (Action.check k d') := ⟨hk, h⟩

end Alike

/-- The page with every row mapped. -/
def Page.map {α β : Type} (f : α → β) (p : Page α) : Page β := ⟨p.items.map f, p.total⟩

/-- Searches that find the same give the same pages. -/
theorem Page.alike {α β γ δ : Type} {f : α → γ} {g : β → δ} {k l : List α → List β}
    {r r' : Except Failure (List α × Nat)}
    (found : r.map (fun x => (x.1.map f, x.2)) = r'.map fun x => (x.1.map f, x.2))
    (seen : ∀ rows rows', rows.map f = rows'.map f → (k rows).map g = (l rows').map g) :
    (do let (rows, total) ← r; return ⟨k rows, total⟩ : Except Failure (Page β)).map (Page.map g) =
      (do let (rows, total) ← r'; return ⟨l rows, total⟩ : Except Failure (Page β)).map
        (Page.map g) := by
  obtain ⟨⟨rows, total⟩, ⟨rows', total'⟩, rfl, rfl, same⟩ | ⟨e, rfl, rfl⟩ := map_eq_cases found
  · obtain ⟨rows, totals⟩ := Prod.mk.inj same
    obtain rfl : total = total' := totals
    exact congrArg (fun items => Except.ok (Page.mk items total)) (seen _ _ rows)
  · rfl

/-! ## The calls on merchants -/

namespace Merchants

variable {who : Principal} {d d' : Directory}

theorem ownedIn_alike {t t' : Tables} (h : t.view = t'.view) (id : Int) :
    (ownedIn who id t).map Merchant.bare = (ownedIn who id t').map Merchant.bare := by
  rw [← ownedIn_view, ← ownedIn_view, h]

/-- The merchant of the caller replaces the row it was read from, with whatever fields. -/
theorem replaces_of_ownedIn {t : Tables} {id : Int} {m new : Merchant}
    (h : ownedIn who id t = .ok m) (ids : new.id = m.id) (owners : new.owner = m.owner) :
    t.Replaces new := by
  intro old hold
  rw [ids, id_of_ownedIn h, (ownedIn_eq_ok h).1] at hold
  cases hold
  exact owners.symm

/-- New fields on merchants that look the same. -/
theorem apply_alike {m m' : Merchant} (h : m.bare = m'.bare) (now now' : Timestamp)
    (fields : MerchantFields) : (m.apply now fields).bare = (m'.apply now' fields).bare := by
  have kept : ∀ (m : Merchant) (now : Timestamp), (m.apply now fields).bare =
      { m.bare.apply default fields with
        longitude := fields.longitude.map unsigned, latitude := fields.latitude.map unsigned,
        updated := default } := fun _ _ => rfl
  rw [kept, kept, h]

theorem create_alike (h : d.view = d'.view) (draft : MerchantDraft) :
    Alike Merchant.bare (create who draft d) (create who draft d') := by
  have tables := Directory.tables_of_view h
  rw [create_eq]
  refine .guarded (f := id) h ?_ ?_
  · rw [← admitCreate_view, tables, admitCreate_view]
  · intro _ _ _ _ _
    obtain ⟨made, written⟩ := Tables.enroll_alike d.engine d'.engine who tables d.now d'.now draft
    exact Directory.announcing_alike h written .merchantCreated who made

theorem find_alike (h : d.view = d'.view) (id : Int) :
    Alike Merchant.bare (find who id d) (find who id d') := by
  have tables := Directory.tables_of_view h
  rw [find_eq]
  refine .guarded h (ownedIn_alike tables id) ?_
  intro m m' _ _ same
  refine ⟨?_, h⟩
  rw [Tables.bare_detailed, Tables.bare_detailed, tables, same]

theorem update_alike (h : d.view = d'.view) (id : Int) (u : MerchantUpdate) :
    Alike Merchant.bare (update who id u d) (update who id u d') := by
  have tables := Directory.tables_of_view h
  rw [update_eq]
  refine .guarded (f := Merchant.bare) h ?_ ?_
  · rw [← admitUpdate_view, tables, admitUpdate_view]
  · intro m m' ok ok' same
    obtain ⟨owned, _, _⟩ := admitUpdate_eq_ok.1 ok
    obtain ⟨owned', _, _⟩ := admitUpdate_eq_ok.1 ok'
    have revised := apply_alike same d.now d'.now u.fields
    have written := Tables.rewrite_alike d.engine d'.engine who tables d.now d'.now u revised
      (replaces_of_ownedIn owned rfl rfl) (replaces_of_ownedIn owned' rfl rfl) id
    exact Directory.announcing_alike h written .merchantUpdated who revised

theorem delete_alike (h : d.view = d'.view) (id : Int) :
    Alike (fun u : Unit => u) (delete who id d) (delete who id d') := by
  have tables := Directory.tables_of_view h
  rw [delete_eq]
  refine .guarded h (ownedIn_alike tables id) ?_
  intro m m' _ _ same
  have gone : (d.tables.expel id).view = (d'.tables.expel id).view := by
    rw [Tables.view_expel, Tables.view_expel, tables]
  exact ⟨rfl, Directory.after_alike h gone .merchantDeleted (merchant_payload same) who⟩

theorem list_alike (h : d.view = d'.view) {search : String} {paging : Paging}
    (hc : (Command.merchants (.list search paging)).Comparable Agreed d.tables)
    (hc' : (Command.merchants (.list search paging)).Comparable Agreed d'.tables) :
    Alike (Page.map Merchant.bare) (list who search paging d) (list who search paging d') := by
  have tables := Directory.tables_of_view h
  have found := Tables.findMerchants_alike tables d.engine d'.engine who.id hc hc'
  refine .check (Page.alike (k := fun ms => d.tables.allDetailed who ms)
    (l := fun ms => d'.tables.allDetailed who ms) found ?_) h
  intro ms ms' rows
  rw [Tables.bare_allDetailed, Tables.bare_allDetailed, tables, rows]

end Merchants

/-! ## The calls on tags -/

namespace Tags

variable {who : Principal} {d d' : Directory}

theorem ownedIn_alike {t t' : Tables} (h : t.view = t'.view) (id : Int) :
    (ownedIn who id t).map Tag.timeless = (ownedIn who id t').map Tag.timeless := by
  rw [← ownedIn_view, ← ownedIn_view, h]

theorem bare_of_timeless {tag tag' : Tag} (h : tag.timeless = tag'.timeless) :
    tag.bare = tag'.bare := by
  rw [Tag.bare, h, Tag.bare]

theorem create_alike (h : d.view = d'.view) (draft : TagDraft) :
    Alike Tag.timeless (create who draft d) (create who draft d') := by
  have tables := Directory.tables_of_view h
  have next : d.tables.tags.next = d'.tables.tags.next := by
    show d.tables.view.tags.next = d'.tables.view.tags.next
    rw [tables]
  rw [create_eq]
  refine .guarded (f := id) h rfl ?_
  intro _ _ _ _ _
  have fresh : (draft.toTag d.now who.id).bare = (draft.toTag d'.now who.id).bare := rfl
  have written : (d.tables.insertTag d.engine (draft.toTag d.now who.id)).2.view =
      (d'.tables.insertTag d'.engine (draft.toTag d'.now who.id)).2.view := by
    rw [Tables.view_insertTag, Tables.view_insertTag, tables, fresh]
  have seen : ((d.tables.insertTag d.engine (draft.toTag d.now who.id)).1.asSeenBy who).timeless =
      ((d'.tables.insertTag d'.engine (draft.toTag d'.now who.id)).1.asSeenBy who).timeless := by
    show Tag.timeless (Tag.asSeenBy (withKey d.tables.tags.next (draft.toTag d.now who.id)) who) =
      Tag.timeless (Tag.asSeenBy (withKey d'.tables.tags.next (draft.toTag d'.now who.id)) who)
    rw [next]
    rfl
  exact ⟨seen, Directory.after_alike h written .tagCreated (tag_payload seen) who⟩

theorem find_alike (h : d.view = d'.view) (id : Int) :
    Alike Tag.timeless (find who id d) (find who id d') :=
  ⟨ownedIn_alike (Directory.tables_of_view h) id, h⟩

theorem list_alike (h : d.view = d'.view) {search : String} {category : Option String}
    {paging : Paging}
    (hc : (Command.tags (.list search category paging)).Comparable Agreed d.tables)
    (hc' : (Command.tags (.list search category paging)).Comparable Agreed d'.tables) :
    Alike (Page.map Tag.timeless) (list who search category paging d)
      (list who search category paging d') := by
  have tables := Directory.tables_of_view h
  have found := Tables.findTags_alike tables d.engine d'.engine who.id category
    (category.filter (!·.isEmpty)) hc hc'
  have seen : ∀ tags : List Tag, (tags.map (·.asSeenBy who)).map Tag.timeless =
      (tags.map Tag.bare).map (·.asSeenBy who) := by
    intro tags
    rw [List.map_map, List.map_map]
    rfl
  refine .check (Page.alike (k := List.map (·.asSeenBy who)) (l := List.map (·.asSeenBy who))
    found ?_) h
  intro tags tags' rows
  rw [seen, seen, rows]

/-- The tag of the caller replaces the row it was read from, with whatever it says. -/
theorem owner_of_ownedIn {t : Tables} {id : Int} {tag : Tag} (h : ownedIn who id t = .ok tag)
    (now : Timestamp) (draft : TagDraft) :
    ∀ old, t.tags.get? (tag.revise now draft).id = some old →
      old.owner = (tag.revise now draft).owner := by
  obtain ⟨stored, hs, _, rfl⟩ := ownedIn_eq_ok h
  obtain rfl := Table.key_of_get? hs
  intro old hold
  cases hs.symm.trans hold
  rfl

theorem update_alike (h : d.view = d'.view) (id : Int) (draft : TagDraft) :
    Alike Tag.timeless (update who id draft d) (update who id draft d') := by
  have tables := Directory.tables_of_view h
  have decided : (admitUpdate who id draft d.tables).map Tag.timeless =
      (admitUpdate who id draft d'.tables).map Tag.timeless := by
    rw [admitUpdate, admitUpdate]
    cases draft.check with
    | error e => rfl
    | ok _ => exact ownedIn_alike tables id
  rw [update_eq]
  refine .guarded h decided ?_
  intro tag tag' ok ok' same
  obtain ⟨_, owned⟩ := admitUpdate_eq_ok.1 ok
  obtain ⟨_, owned'⟩ := admitUpdate_eq_ok.1 ok'
  have revised : (tag.revise d.now draft).timeless = (tag'.revise d'.now draft).timeless := by
    have kept : ∀ (tag : Tag) (now : Timestamp), (tag.revise now draft).timeless =
        tag.timeless.revise default draft := fun _ _ => rfl
    rw [kept, kept, same]
  have ids : (tag.revise d.now draft).id = (tag'.revise d'.now draft).id := by
    show (tag.revise d.now draft).timeless.id = (tag'.revise d'.now draft).timeless.id
    rw [revised]
  have written : (d.tables.updateTag d.engine (tag.revise d.now draft)).view =
      (d'.tables.updateTag d'.engine (tag'.revise d'.now draft)).view := by
    rw [Tables.view_updateTag d.engine (owner_of_ownedIn owned d.now draft),
      Tables.view_updateTag d'.engine (owner_of_ownedIn owned' d'.now draft), tables, ids,
      bare_of_timeless revised]
  exact ⟨revised,
    Directory.after_alike h written .tagUpdated (tag_payload revised) who⟩

theorem delete_alike (h : d.view = d'.view) (id : Int) :
    Alike (fun u : Unit => u) (delete who id d) (delete who id d') := by
  have tables := Directory.tables_of_view h
  rw [delete_eq]
  refine .guarded h (ownedIn_alike tables id) ?_
  intro tag tag' _ _ same
  have gone : ((d.tables.deleteRelationsOfTag id).deleteTag id).view =
      ((d'.tables.deleteRelationsOfTag id).deleteTag id).view := by
    rw [Tables.view_deleteTag, Tables.view_deleteTag, Tables.view_deleteRelationsOfTag,
      Tables.view_deleteRelationsOfTag, tables]
  exact ⟨rfl, Directory.after_alike h gone .tagDeleted (tag_payload same) who⟩

end Tags

/-! ## The calls on points -/

namespace Points

variable {who : Principal} {d d' : Directory}

theorem accessibleIn_alike {t t' : Tables} (h : t.view = t'.view) (id : Int) :
    (accessibleIn who id t).map GeoPoint.bare = (accessibleIn who id t').map GeoPoint.bare := by
  rw [← accessibleIn_view, ← accessibleIn_view, h]

theorem requireMerchant_alike {t t' : Tables} (h : t.view = t'.view) (id : Int) :
    requireMerchant who id t = requireMerchant who id t' := by
  rw [← requireMerchant_view, h, requireMerchant_view]

/-- A new point on tables that look the same. -/
theorem insertPoint_alike {t t' : Tables} (h : t.view = t'.view) (e e' : Engine) {p p' : GeoPoint}
    (hp : p.bare = p'.bare) : (t.insertPoint e p).1.bare = (t'.insertPoint e' p').1.bare ∧
      (t.insertPoint e p).2.view = (t'.insertPoint e' p').2.view := by
  rw [Tables.bare_insertPoint, Tables.bare_insertPoint, Tables.view_insertPoint,
    Tables.view_insertPoint, h, hp]
  exact ⟨rfl, rfl⟩

theorem create_alike (h : d.view = d'.view) (draft : GeoPointDraft) :
    Alike GeoPoint.bare (create who draft d) (create who draft d') := by
  have tables := Directory.tables_of_view h
  have decided : admitCreate who draft d.tables = admitCreate who draft d'.tables := by
    rw [admitCreate, admitCreate]
    simp only [requireMerchant_alike tables]
  have fresh : (draft.toPoint d.now).bare = (draft.toPoint d'.now).bare := rfl
  rw [create_eq]
  refine .guarded (f := id) h (by rw [decided]) ?_
  intro _ _ _ _ _
  obtain ⟨made, written⟩ := insertPoint_alike tables d.engine d'.engine fresh
  exact ⟨made, Directory.after_alike h written .pointCreated (point_payload made) who⟩

theorem find_alike (h : d.view = d'.view) (id : Int) :
    Alike GeoPoint.bare (find who id d) (find who id d') :=
  ⟨accessibleIn_alike (Directory.tables_of_view h) id, h⟩

theorem list_alike (h : d.view = d'.view) {merchant : Int} {search : String} {paging : Paging}
    (hc : (Command.points (.list merchant search paging)).Comparable Agreed d.tables)
    (hc' : (Command.points (.list merchant search paging)).Comparable Agreed d'.tables) :
    Alike (Page.map GeoPoint.bare) (list who merchant search paging d)
      (list who merchant search paging d') := by
  have tables := Directory.tables_of_view h
  have found := Tables.findPoints_alike tables d.engine d'.engine merchant hc hc'
  have allowed : requireMerchant who merchant d.tables = requireMerchant who merchant d'.tables :=
    requireMerchant_alike tables merchant
  refine .check ?_ h
  rw [allowed]
  cases requireMerchant who merchant d'.tables with
  | error e => rfl
  | ok _ => exact Page.alike (k := id) (l := id) found fun _ _ rows => rows

theorem update_alike (h : d.view = d'.view) (id : Int) (draft : GeoPointDraft) :
    Alike GeoPoint.bare (update who id draft d) (update who id draft d') := by
  have tables := Directory.tables_of_view h
  have decided : (admitUpdate who id draft d.tables).map GeoPoint.bare =
      (admitUpdate who id draft d'.tables).map GeoPoint.bare := by
    rw [admitUpdate, admitUpdate]
    cases draft.check with
    | error e => rfl
    | ok _ =>
      simp only [ok_bind]
      obtain ⟨p, p', hp, hp', same⟩ | ⟨e, hp, hp'⟩ := map_eq_cases (accessibleIn_alike tables id)
      · have holder : p.merchant = p'.merchant := by
          show p.bare.merchant = p'.bare.merchant
          rw [same]
        have target : requireTarget who p draft.merchant d.tables =
            requireTarget who p' draft.merchant d'.tables := by
          rw [requireTarget.eq_def, requireTarget.eq_def, holder]
          simp only [requireMerchant_alike tables]
        rw [hp, hp', ok_bind, ok_bind, target]
        cases requireTarget who p' draft.merchant d'.tables with
        | error e => rfl
        | ok _ => exact congrArg Except.ok same
      · rw [hp, hp']
        rfl
  rw [update_eq]
  refine .guarded h decided ?_
  intro p p' _ _ same
  have revised : (p.revise d.now draft).bare = (p'.revise d'.now draft).bare := by
    have kept : ∀ (p : GeoPoint) (now : Timestamp), (p.revise now draft).bare =
        { p.bare.revise default draft with
          longitude := unsigned draft.longitude, latitude := unsigned draft.latitude } :=
      fun _ _ => rfl
    rw [kept, kept, same]
  have ids : (p.revise d.now draft).id = (p'.revise d'.now draft).id := by
    show (p.revise d.now draft).bare.id = (p'.revise d'.now draft).bare.id
    rw [revised]
  have written : (d.tables.updatePoint d.engine (p.revise d.now draft)).view =
      (d'.tables.updatePoint d'.engine (p'.revise d'.now draft)).view := by
    rw [Tables.view_updatePoint, Tables.view_updatePoint, tables, ids, revised]
  exact ⟨revised, Directory.after_alike h written .pointUpdated (point_payload revised) who⟩

theorem delete_alike (h : d.view = d'.view) (id : Int) :
    Alike (fun u : Unit => u) (delete who id d) (delete who id d') := by
  have tables := Directory.tables_of_view h
  rw [delete_eq]
  refine .guarded h (accessibleIn_alike tables id) ?_
  intro p p' _ _ same
  have gone : (d.tables.deletePoint id).view = (d'.tables.deletePoint id).view := by
    rw [Tables.view_deletePoint, Tables.view_deletePoint, tables]
  exact ⟨rfl, Directory.after_alike h gone .pointDeleted (point_payload same) who⟩

end Points

/-! ## Geocoding -/

namespace Geocoding

variable {d d' : Directory}

/-- The providers are asked the same, so they answer the same. -/
theorem askInOrder_alike (h : d.view = d'.view) (address : String)
    (last : Option (String × LookupFailure)) (chain : List Provider) :
    Alike (fun r : GeocodeResult => r) (askInOrder address last chain d)
      (askInOrder address last chain d') := by
  induction chain generalizing last d d' with
  | nil => exact .error _ h
  | cons p rest ih =>
    have lookups := Directory.lookups_of_view h
    rw [askInOrder, Action.bind_apply, Action.bind_apply, ask, ask, lookups]
    have asked := Directory.view_lookups h
      (d'.lookups ++ [⟨p.name, address, (p.answer d'.lookups address).requests⟩])
    cases (p.answer d'.lookups address).outcome with
    | resolved r => exact .ok rfl asked
    | failed e => exact ih asked (some (p.name, e))
    | crashed => exact .error .crash asked

theorem resolve_alike (h : d.view = d'.view) (chain : List Provider) (address : String) :
    Alike (fun r : GeocodeResult => r) (resolve chain address d) (resolve chain address d') := by
  rw [resolve]
  refine .bind (f := fun u : Unit => u) (.ofExcept rfl h) ?_
  intro _ _ _ _ _ _ _ state
  exact askInOrder_alike state address none chain

theorem addPoint_alike (h : d.view = d'.view) {draft draft' : GeoPointDraft}
    (checks : draft.check = draft'.check)
    (points : (draft.toPoint default).bare = (draft'.toPoint default).bare) :
    Alike GeoPoint.bare (addPoint draft d) (addPoint draft' d') := by
  have fresh : (draft.toPoint d.now).bare = (draft'.toPoint d'.now).bare := points
  obtain ⟨made, written⟩ :=
    Points.insertPoint_alike (Directory.tables_of_view h) d.engine d'.engine fresh
  rw [addPoint_eq, addPoint_eq]
  refine .guarded (f := id) h (by rw [checks]) ?_
  intro _ _ _ _ _
  exact ⟨made, Directory.view_tables h written⟩

theorem save_alike (h : d.view = d'.view) (chain : List Provider) (address source : String)
    (metadata : Option Json.Object) :
    Alike GeoPoint.bare (save chain address source metadata d)
      (save chain address source metadata d') := by
  rw [save]
  refine .bind (f := fun u : Unit => u) (.ofExcept rfl h) ?_
  intro _ _ d d' _ _ _ h
  have record : (d.tables.pointFor? address source).map GeoPoint.bare =
      (d'.tables.pointFor? address source).map GeoPoint.bare := by
    rw [← Tables.view_pointFor?, ← Tables.view_pointFor?, Directory.tables_of_view h]
  refine .bind (f := Option.map GeoPoint.bare) (.read record h) ?_
  intro r r' d d' _ _ same h
  cases r with
  | some p =>
    cases r' with
    | some p' => exact .ok (Option.some.inj same) h
    | none => cases same
  | none =>
    cases r' with
    | some p' => cases same
    | none =>
      refine .bind (resolve_alike h chain address) ?_
      rintro answer _ d d' _ _ rfl h
      exact addPoint_alike h rfl rfl

/-- What a copy takes over from a point, it takes from one that looks the same. -/
theorem copyDraft_alike {p p' : GeoPoint} (h : p.bare = p'.bare) (merchant : Int)
    (metadata : Json.Object) :
    (copyDraft p merchant metadata).check = (copyDraft p' merchant metadata).check ∧
      ((copyDraft p merchant metadata).toPoint default).bare =
        ((copyDraft p' merchant metadata).toPoint default).bare := by
  have longitude : unsigned p.longitude = unsigned p'.longitude := congrArg GeoPoint.longitude h
  have latitude : unsigned p.latitude = unsigned p'.latitude := congrArg GeoPoint.latitude h
  have source : p.source = p'.source := by
    show p.bare.source = p'.bare.source
    rw [h]
  have address : p.address = p'.address := by
    show p.bare.address = p'.bare.address
    rw [h]
  have accuracy : p.accuracy = p'.accuracy := by
    show p.bare.accuracy = p'.bare.accuracy
    rw [h]
  have isLongitude : isLongitude p.longitude = isLongitude p'.longitude :=
    between_alike longitude _ _
  have isLatitude : isLatitude p.latitude = isLatitude p'.latitude :=
    between_alike latitude _ _
  constructor
  · simp only [copyDraft, GeoPointDraft.check, requireLongitude, requireLatitude, isLongitude,
      isLatitude, source, accuracy]
  · simp only [copyDraft, GeoPointDraft.toPoint, GeoPoint.bare, longitude, latitude, source,
      address, accuracy]

theorem copyFor_alike (h : d.view = d'.view) (merchant : Int) (metadata : Option Json.Object)
    {p p' : GeoPoint} (hp : p.bare = p'.bare) :
    Alike GeoPoint.bare (copyFor merchant metadata p d) (copyFor merchant metadata p' d') := by
  have address : p.address = p'.address := by
    show p.bare.address = p'.bare.address
    rw [hp]
  have source : p.source = p'.source := by
    show p.bare.source = p'.bare.source
    rw [hp]
  have origin : p.metadataObject = p'.metadataObject := by
    show p.bare.metadataObject = p'.bare.metadataObject
    rw [hp]
  have held : (d.tables.pointsOf merchant).map GeoPoint.bare =
      (d'.tables.pointsOf merchant).map GeoPoint.bare := by
    rw [← Tables.view_pointsOf, ← Tables.view_pointsOf, Directory.tables_of_view h]
  rw [copyFor, copyFor, address, source, origin]
  refine .bind (f := List.map GeoPoint.bare) (.read held h) ?_
  intro own own' d d' _ _ same h
  have found : (own.find? fun q => q.address == p'.address && q.source == p'.source).map
      GeoPoint.bare = (own'.find? fun q => q.address == p'.address && q.source == p'.source).map
        GeoPoint.bare := by
    have search : ∀ own : List GeoPoint,
        (own.find? fun q => q.address == p'.address && q.source == p'.source).map GeoPoint.bare =
          (own.map GeoPoint.bare).find? fun q =>
            q.address == p'.address && q.source == p'.source := by
      intro own
      rw [List.find?_map]
      rfl
    rw [search, search, same]
  cases hq : own.find? fun q => q.address == p'.address && q.source == p'.source with
  | some q =>
    cases hq' : own'.find? fun q => q.address == p'.address && q.source == p'.source with
    | some q' =>
      rw [hq, hq'] at found
      exact .ok (Option.some.inj found) h
    | none =>
      rw [hq, hq'] at found
      cases found
  | none =>
    cases hq' : own'.find? fun q => q.address == p'.address && q.source == p'.source with
    | some q' =>
      rw [hq, hq'] at found
      cases found
    | none =>
      refine .bind (f := fun o : Json.Object => o) (.ofExcept rfl h) ?_
      rintro recorded _ d d' _ _ rfl h
      obtain ⟨checks, points⟩ :=
        copyDraft_alike hp merchant (withOriginOf recorded (metadata.getD []))
      exact addPoint_alike h checks points

theorem link_alike (h : d.view = d'.view) (chain : List Provider) (job : Job) :
    Alike GeoPoint.bare (link chain job d) (link chain job d') := by
  rw [link]
  refine .bind (save_alike h chain job.address job.source job.metadata) ?_
  intro p p' d d' _ _ hp h
  have holder : p.merchant = p'.merchant := by
    show p.bare.merchant = p'.bare.merchant
    rw [hp]
  have ids : p.id = p'.id := by
    show p.bare.id = p'.bare.id
    rw [hp]
  rw [holder]
  cases job.merchant with
  | none => exact .ok hp h
  | some m =>
    cases hm : p'.merchant with
    | none =>
      have moved : (d.tables.setPointMerchant p.id (some m)).view =
          (d'.tables.setPointMerchant p'.id (some m)).view := by
        rw [Tables.view_setPointMerchant, Tables.view_setPointMerchant,
          Directory.tables_of_view h, ids]
      have given : GeoPoint.bare { p with merchant := some m } =
          GeoPoint.bare { p' with merchant := some m } :=
        congrArg (fun q : GeoPoint => { q with merchant := some m }) hp
      exact .ok given (Directory.view_tables h moved)
    | some other =>
      dsimp only
      split
      · exact .ok hp h
      · exact copyFor_alike h m job.metadata hp

theorem batch_alike (h : d.view = d'.view) (chain : List Provider) (source : String)
    (addresses : List String) :
    Alike (List.map GeoPoint.bare) (batch chain source addresses d)
      (batch chain source addresses d') := by
  induction addresses generalizing d d' with
  | nil => exact .ok rfl h
  | cons address rest ih =>
    rw [batch]
    split
    · exact ih h
    · refine .bind (save_alike h chain address source none).attempt ?_
      intro r r' d d' _ _ same h
      obtain ⟨p, p', rfl, rfl, hp⟩ | ⟨e, rfl, rfl⟩ := map_eq_cases same
      · refine .bind (ih h) ?_
        intro ps ps' d d' _ _ hps h
        refine .ok ?_ h
        rw [List.map_cons, List.map_cons, hp, hps]
      · cases e with
        | crash => exact .error .crash h
        | _ => exact ih h

theorem nearby_alike (h : d.view = d'.view) (longitude latitude radius : Float) {limit : Nat}
    (hc : (Command.geocoding (.nearby longitude latitude radius limit)).Comparable Agreed d.tables)
    (hc' : (Command.geocoding (.nearby longitude latitude radius limit)).Comparable Agreed
      d'.tables) :
    Alike (List.map GeoPoint.bare) (nearby longitude latitude radius limit d)
      (nearby longitude latitude radius limit d') := by
  have candidates : ∀ (e : Engine) (t : Tables), limit < 2 ^ 64 → t.points.rows.length ≤ 2 ^ 63 →
      ((t.findInWindow e (.around longitude latitude radius) limit).filter
        fun p => p.distanceTo latitude longitude ≤ radius).map GeoPoint.bare =
      (t.view.findInWindow .memory (.around longitude latitude radius) limit).filter
        fun p => p.distanceTo latitude longitude ≤ radius := by
    intro e t word few
    rw [← t.findInWindow_bare e word few, List.filter_map]
    refine congrArg (List.map GeoPoint.bare) (List.filter_congr ?_)
    intro p _
    rw [Function.comp_apply, GeoPoint.distanceTo_bare]
  have found := candidates d.engine d.tables hc.1 hc.2
  rw [Directory.tables_of_view h, ← candidates d'.engine d'.tables hc'.1 hc'.2] at found
  simp only [nearby, Action.bind_apply, Action.ofExcept_apply, Action.read_apply]
  cases requireLongitude longitude with
  | error e => exact .error e h
  | ok _ =>
    cases requireLatitude latitude with
    | error e => exact .error e h
    | ok _ =>
      cases requireRadius radius with
      | error e => exact .error e h
      | ok _ => exact .ok found h

/-! ## Jobs -/

theorem runJobs_alike (h : d.view = d'.view) (chain : List Provider) (jobs : List Job) :
    Alike (fun u : Unit => u) (runJobs chain jobs d) (runJobs chain jobs d') := by
  induction jobs generalizing d d' with
  | nil => exact .ok rfl h
  | cons job rest ih =>
    rw [runJobs, Action.bind_of_ok (runJob_apply chain job d),
      Action.bind_of_ok (runJob_apply chain job d')]
    exact ih (link_alike h chain job).state

theorem drain_alike (h : d.view = d'.view) (s : Schedule) (chain : List Provider) :
    Alike (fun u : Unit => u) (drain s chain d) (drain s chain d') := by
  rw [drain, drain, Directory.queue_of_view h]
  exact runJobs_alike (Directory.view_queue h []) chain _

end Geocoding

/-! ## Geocoding on demand -/

namespace Merchants

variable {who : Principal} {d d' : Directory}

theorem locate_alike (h : d.view = d'.view) (chain : List Provider) (id : Int) (address : String) :
    Alike (fun x : GeoPoint × Metadata => (x.1.bare, x.2)) (locate chain id address d)
      (locate chain id address d') := by
  rw [locate]
  refine .bind (Geocoding.link_alike h chain (job id address)) ?_
  intro p p' d d' _ _ hp h
  have origin : p.typedMetadata = p'.typedMetadata := by
    show p.bare.typedMetadata = p'.bare.typedMetadata
    rw [hp]
  rw [origin]
  refine .bind (f := fun o : Metadata => o) (.ofExcept rfl h) ?_
  rintro o _ d d' _ _ rfl h
  exact .ok (Prod.ext hp rfl) h

/-- The place of a point in merchants and points that look the same. -/
theorem placedAt_alike {m m' : Merchant} {p p' : GeoPoint} (hm : m.bare = m'.bare)
    (hp : p.bare = p'.bare) (origin : Metadata) :
    (placedAt m p origin).bare = (placedAt m' p' origin).bare := by
  have kept : ∀ (m : Merchant) (p : GeoPoint), (placedAt m p origin).bare =
      { placedAt m.bare p.bare origin with
        longitude := some p.bare.longitude, latitude := some p.bare.latitude } :=
    fun _ _ => rfl
  rw [kept, kept, hm, hp]

theorem unresolved_alike {m m' : Merchant} (hm : m.bare = m'.bare) (e : Failure) :
    (unresolved m e).bare = (unresolved m' e).bare := by
  have kept : ∀ m : Merchant, (unresolved m e).bare = unresolved m.bare e := fun _ => rfl
  rw [kept, kept, hm]

theorem updateMerchant_alike {t t' : Tables} (h : t.view = t'.view) (e e' : Engine)
    {m m' : Merchant} (hm : m.bare = m'.bare) (owner : t.Replaces m) (owner' : t'.Replaces m') :
    (t.updateMerchant e m).view = (t'.updateMerchant e' m').view := by
  have ids : m.id = m'.id := by
    show m.bare.id = m'.bare.id
    rw [hm]
  rw [Tables.view_updateMerchant e owner, Tables.view_updateMerchant e' owner', h, hm, ids]

/-- Locating an address leaves the merchants alone. -/
theorem attempt_locate_keeps {chain : List Provider} {id : Int} {address : String}
    {r : Except Failure (GeoPoint × Metadata)}
    (h : Action.attempt (locate chain id address) d = (.ok r, d')) :
    d'.tables.merchants = d.tables.merchants := by
  have state : (locate chain id address d).2 = d' := congrArg Prod.snd h
  rw [← state, locate_snd]
  exact (Geocoding.link_linked chain (job id address) d).merchants

theorem geocode_alike (h : d.view = d'.view) (chain : Option (List Provider)) (id : Int) :
    Alike Merchant.bare (geocode chain who id d) (geocode chain who id d') := by
  cases chain with
  | none => exact .error _ h
  | some chain =>
    rw [geocode]
    refine .bind (f := Merchant.bare) (.check (ownedIn_alike (Directory.tables_of_view h) id) h) ?_
    intro m m' d₁ d₁' hd hd' hm h
    have owned : ownedIn who id d₁.tables = .ok m := by
      obtain ⟨ho, rfl⟩ := Prod.mk.inj hd
      exact ho
    have owned' : ownedIn who id d₁'.tables = .ok m' := by
      obtain ⟨ho, rfl⟩ := Prod.mk.inj hd'
      exact ho
    have address : m.address = m'.address := by
      show m.bare.address = m'.bare.address
      rw [hm]
    refine .bind (f := fun u : Unit => u) (.ofExcept (by rw [address]) h) ?_
    intro _ _ d₂ d₂' hd hd' _ h
    obtain ⟨_, rfl⟩ := Prod.mk.inj hd
    obtain ⟨_, rfl⟩ := Prod.mk.inj hd'
    have counted : Merchant.bare { m with geocodeAttempts := m.geocodeAttempts + 1 } =
        Merchant.bare { m' with geocodeAttempts := m'.geocodeAttempts + 1 } :=
      congrArg (fun m : Merchant => { m with geocodeAttempts := m.geocodeAttempts + 1 }) hm
    have located : Alike (fun x : GeoPoint × Metadata => (x.1.bare, x.2))
        (locate chain id m.address d₁) (locate chain id m'.address d₁') := by
      rw [address]
      exact locate_alike h chain id m'.address
    refine .bind located.attempt ?_
    intro r r' d₂ d₂' hd hd' same h
    have kept := attempt_locate_keeps hd
    have kept' := attempt_locate_keeps hd'
    have replaces : ∀ new : Merchant, new.id = m.id → new.owner = m.owner →
        d₂.tables.Replaces new := by
      intro new ids owners old hold
      rw [kept] at hold
      exact replaces_of_ownedIn owned ids owners old hold
    have replaces' : ∀ new : Merchant, new.id = m'.id → new.owner = m'.owner →
        d₂'.tables.Replaces new := by
      intro new ids owners old hold
      rw [kept'] at hold
      exact replaces_of_ownedIn owned' ids owners old hold
    obtain ⟨⟨p, origin⟩, ⟨p', origin'⟩, rfl, rfl, found⟩ | ⟨e, rfl, rfl⟩ := map_eq_cases same
    · obtain ⟨hp, origins⟩ := Prod.mk.inj found
      obtain rfl : origin = origin' := origins
      have placed := placedAt_alike counted hp origin
      have written := updateMerchant_alike (Directory.tables_of_view h) d₂.engine d₂'.engine placed
        (replaces _ rfl rfl) (replaces' _ rfl rfl)
      obtain ⟨seen, after⟩ := Directory.announcing_alike h written .merchantUpdated who placed
      exact .ok seen after
    · have written := updateMerchant_alike (Directory.tables_of_view h) d₂.engine d₂'.engine
        (unresolved_alike counted e) (replaces _ rfl rfl) (replaces' _ rfl rfl)
      have noted := Directory.view_tables h written
      cases e with
      | crash => exact .error .crash h
      | _ => exact .error _ noted

end Merchants

/-! ## Imports -/

namespace Import

variable {who : Principal} {d d' : Directory}

def Outcome.bare : Outcome → Outcome
  | .imported m => .imported m.bare
  | .rejected ps => .rejected ps

def Report.bare (r : Report) : Report := { r with items := r.items.map Merchant.bare }

theorem tagIds_alike {t t' : Tables} (h : t.view = t'.view) (i : Importer) (names : List String) :
    tagIds i who names t = tagIds i who names t' := by
  have ids : ∀ t : Tables, (t.findTagsByNames who.id names).map Tag.id =
      (t.view.findTagsByNames who.id names).map Tag.id := by
    intro t
    rw [Tables.view_findTagsByNames, List.map_map]
    rfl
  rw [tagIds, tagIds, ids t, ids t', h]

theorem jobsOf_alike {m m' : Merchant} (h : m.bare = m'.bare) (geocoding : Bool) :
    jobsOf geocoding m = jobsOf geocoding m' := by
  show jobsOf geocoding m.bare = jobsOf geocoding m'.bare
  rw [h]

theorem importRow_alike (h : d.view = d'.view) (i : Importer) (geocoding : Bool) (r : Row) :
    Alike Outcome.bare (importRow i who geocoding r d) (importRow i who geocoding r d') := by
  rw [importRow]
  cases r.problems with
  | cons p ps => exact .ok rfl h
  | nil =>
    have named : tagIds i who r.tagNames d.tables = tagIds i who r.tagNames d'.tables :=
      tagIds_alike (Directory.tables_of_view h) i r.tagNames
    simp only [List.isEmpty_nil, Bool.not_true, Bool.false_eq_true, if_false]
    refine .bind (f := fun x : Except String (List Int) => x) (.read named h) ?_
    rintro found _ d d' _ _ rfl h
    cases found with
    | error reason => exact .ok rfl h
    | ok tags =>
      refine .bind (Merchants.create_alike h (r.draft tags)).attempt ?_
      intro made made' d d' _ _ same h
      obtain ⟨m, m', rfl, rfl, hm⟩ | ⟨e, rfl, rfl⟩ := map_eq_cases same
      · have queued := Directory.view_queue h (d'.queue ++ jobsOf geocoding m')
        simp only [Action.bind_apply, submitAddress_apply, jobsOf_alike hm,
          Directory.queue_of_view h]
        exact .ok (congrArg Outcome.imported hm) queued
      · exact .ok rfl h

theorem importRows_alike (h : d.view = d'.view) (i : Importer) (geocoding : Bool)
    (columns : List Placed) (records : List (List String)) :
    Alike (List.map Outcome.bare) (importRows i who geocoding columns records d)
      (importRows i who geocoding columns records d') := by
  induction records generalizing d d' with
  | nil => exact .ok rfl h
  | cons record rest ih =>
    rw [importRows]
    refine .bind (importRow_alike h i geocoding (readRow columns record)) ?_
    intro o o' d d' _ _ ho h
    refine .bind (ih h) ?_
    intro os os' d d' _ _ hos h
    refine .ok ?_ h
    rw [List.map_cons, List.map_cons, ho, hos]

/-- Of the merchants in a report only the bare rows matter, and of the rest nothing is left out. -/
theorem ofOutcomes_alike {os os' : List Outcome} (h : os.map Outcome.bare = os'.map Outcome.bare)
    (geocoding : Bool) : (Report.ofOutcomes who geocoding os).bare =
      (Report.ofOutcomes who geocoding os').bare := by
  have rejected : ∀ os : List Outcome, os.countP Outcome.isRejected =
      (os.map Outcome.bare).countP Outcome.isRejected := by
    intro os
    rw [List.countP_map]
    congr 1
    funext o
    cases o <;> rfl
  have errors : ∀ (os : List Outcome) (row : Nat),
      errorsFrom row os = errorsFrom row (os.map Outcome.bare) := by
    intro os
    induction os with
    | nil => exact fun _ => rfl
    | cons o rest ih =>
      intro row
      have problems : o.bare.problems = o.problems := by cases o <;> rfl
      rw [errorsFrom, List.map_cons, errorsFrom, problems, ih]
  have items : ∀ os : List Outcome, (os.filterMap Outcome.item?).map Merchant.bare =
      (os.map Outcome.bare).filterMap Outcome.item? := by
    intro os
    rw [List.map_filterMap, List.filterMap_map]
    congr 1
    funext o
    cases o <;> rfl
  have total : os.length = os'.length := by
    rw [← List.length_map Outcome.bare, h, List.length_map]
  rw [Report.ofOutcomes, Report.bare, Report.ofOutcomes, Report.bare]
  simp only [items, rejected os, rejected os', errors os, errors os', h, total]

theorem importBytes_alike (h : d.view = d'.view) (i : Importer) (auto : Bool)
    (bytes : List UInt8) :
    Alike Report.bare (importBytes i who auto bytes d) (importBytes i who auto bytes d') := by
  rw [importBytes]
  refine .bind (f := fun x : List (List String) => x) (.ofExcept rfl h) ?_
  rintro records _ d d' _ _ rfl h
  cases records with
  | nil => exact .error _ h
  | cons header rest =>
    cases rest with
    | nil => exact .error _ h
    | cons first rest =>
      rw [importRecords]
      refine .bind (f := fun x : List Placed => x) (.ofExcept rfl h) ?_
      rintro columns _ d d' _ _ rfl h
      refine .bind (importRows_alike h i (auto && i.background) columns (first :: rest)) ?_
      intro os os' d d' _ _ hos h
      exact .ok (ofOutcomes_alike hos (auto && i.background)) h

end Import

end Gazetteer
