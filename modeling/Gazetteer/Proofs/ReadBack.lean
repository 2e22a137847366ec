import Gazetteer.Proofs.Frames
import Gazetteer.Proofs.StoreView

/-!
# Reads agree with each other and with writes

The list of a caller's merchants gathers tags and favorites for all of them at once, and a call that
writes answers the row that it has at hand. Reading one row by its id looks everything up for that
row alone. All three show the same.

* `allDetailed_eq`: what is gathered for many merchants is what is looked up for each.
* `Merchants.list_all`: the list without a search and without pages.
* `Command.readBack`, `ReadsBack`: the command that reads again what was just written, and that it
  answers the same value.
* `reads_agree`: both for every directory.
-/

set_option autoImplicit false

namespace Gazetteer

/-! ## Many at once -/

namespace Tables

variable (who : Principal) (t : Tables)

/-- Of the tags that were gathered for some merchants, those of one of them are its own. -/
theorem tagged_filter {ids : List Int} {id : Int} (h : id ∈ ids) :
    (t.tagged ids).filter (·.1 = id) = t.tagged [id] := by
  rw [tagged, tagged, relationsOf, relationsOf, List.filter_filterMap, List.filterMap_filter,
    List.filterMap_filter]
  refine List.filterMap_congr ?_
  intro r _
  by_cases here : r.merchant = id
  · cases t.tags.get? r.tag <;> simp [here, h]
  · cases t.tags.get? r.tag <;> simp [here]

theorem favoritesAmong_contains (user : Int) {ids : List Int} {id : Int} (h : id ∈ ids) :
    (t.favoritesAmong user ids).contains id = t.isFavorite user id := by
  rw [favoritesAmong, Bool.eq_iff_iff, List.contains_iff_mem, List.mem_filter]
  exact and_iff_right h

theorem allDetailed_eq (ms : List Merchant) :
    t.allDetailed who ms = ms.map fun m => t.detailed who m := by
  rw [allDetailed]
  refine List.map_congr_left ?_
  intro m hm
  have named : m.id ∈ ms.map Merchant.id := List.mem_map_of_mem hm
  simp only [tagged_filter t named, favoritesAmong_contains t who.id named, detailed]

end Tables

namespace Engine

/-- A blank search finds every row that has a text, and its pattern is short enough. -/
theorem select_blank {α : Type} (e : Engine) (texts : α → List String) (ne : ∀ r, texts r ≠ [])
    (rows : List α) : e.select "" texts rows = .ok rows := by
  cases e with
  | memory =>
    have all : ∀ r ∈ rows, containsFolded "" (texts r) = true := fun _ _ => rfl
    rw [select, List.filter_eq_self.2 all]
  | sqlite =>
    have short : ¬Like.maxBytes < Like.byteSize (Like.pattern "".toList) := by decide
    have shown : Like.visible (Like.pattern "".toList) = ['%', '%'] := by decide
    have all : ∀ r ∈ rows, ((texts r).any fun x =>
        Like.covers ['%', '%'] (Like.visible x.toList)) = true := by
      intro r _
      obtain ⟨x, rest, hx⟩ := List.exists_cons_of_ne_nil (ne r)
      have covered : Like.covers ['%', '%'] (Like.visible x.toList) = true :=
        (Like.covers_pattern [] _).2 List.nil_infix
      rw [hx, List.any_cons, covered, Bool.true_or]
    simp only [select, short, shown, decide_false, Bool.false_and, Bool.false_eq_true, if_false]
    rw [List.filter_eq_self.2 all]

theorem page_whole {α : Type} (e : Engine) {p : Paging} (h : p.window = none) (rows : List α) :
    e.page p rows = rows := by
  cases e with
  | memory => rw [page, Paging.cut, h]
  | sqlite => rw [page, Paging.boundedCut, Paging.signedBounds, h]; rfl

end Engine

namespace Merchants

variable {who : Principal} {id : Int} {d : Directory}

theorem ownedIn_of_get? {t : Tables} {m : Merchant} (stored : t.merchants.get? id = some m)
    (own : m.owner = who.id) : ownedIn who id t = .ok m := by
  have owned : m.isOwnedBy who = true := decide_eq_true own
  simp only [ownedIn, stored, owned, if_true]

theorem ownedIn_of_mem {t : Tables} {m : Merchant} (h : m ∈ t.ownMerchants who) :
    ownedIn who m.id t = .ok m := by
  obtain ⟨stored, own⟩ := List.mem_filter.1 h
  exact ownedIn_of_get? (Table.get?_of_mem stored) (of_decide_eq_true own)

theorem find_of_owned {m : Merchant} (h : ownedIn who id d.tables = .ok m) :
    find who id d = (.ok (d.tables.detailed who m), d) := by
  rw [find_eq, Action.guarded_of_ok h]

/-- Without a search and without pages all merchants of the caller are listed. -/
theorem list_all (who : Principal) {paging : Paging} (whole : paging.window = none)
    (d : Directory) :
    list who "" paging d =
      (.ok ⟨(d.tables.ownMerchants who).map fun m => d.tables.detailed who m,
        (d.tables.ownMerchants who).length⟩, d) := by
  have found : d.engine.select "" Tables.merchantTexts (d.tables.ownMerchants who) =
      .ok (d.tables.ownMerchants who) :=
    d.engine.select_blank Tables.merchantTexts (fun _ => List.cons_ne_nil _ _) _
  have listed : d.tables.findMerchants d.engine who.id "" paging =
      .ok (d.tables.ownMerchants who, (d.tables.ownMerchants who).length) := by
    show (d.engine.select "" Tables.merchantTexts (d.tables.ownMerchants who) >>= _) = _
    rw [found, ok_bind, d.engine.page_whole whole]
    rfl
  rw [list, Action.check_apply, listed, ok_bind]
  dsimp only
  rw [Tables.allDetailed_eq]
  rfl

end Merchants

/-! ## Values -/

/-- The merchant with its numbers by their value. What it holds is left as it is. -/
def Merchant.valued (m : Merchant) : Merchant :=
  { m with longitude := m.longitude.map unsigned, latitude := m.latitude.map unsigned }

/-- The point with its numbers by their value. -/
def GeoPoint.valued (p : GeoPoint) : GeoPoint :=
  { p with longitude := unsigned p.longitude, latitude := unsigned p.latitude }

/-- What is answered about one row, with its numbers by their value. -/
def Reply.valued : Reply → Reply
  | .merchant m => .merchant m.valued
  | .point p => .point p.valued
  | reply => reply

/-! ## Rows as they were written -/

theorem Table.get?_modify_self {α : Type} [Keyed α] {t : Table α} {i : Int} {r : α}
    (stored : t.get? i = some r) (f : α → α) :
    (t.modify i f).get? i = some (withKey i (f r)) := by
  rw [get?_modify, stored, Option.map_some, changed, if_pos (key_of_get? stored)]

theorem Table.get?_modify_of_ne {α : Type} [Keyed α] {t : Table α} {i j : Int} (ne : j ≠ i)
    (f : α → α) : (t.modify i f).get? j = t.get? j := by
  rw [get?_modify]
  cases found : t.get? j with
  | none => rfl
  | some r =>
    have other : key r ≠ i := fun same => ne ((key_of_get? found).symm.trans same)
    rw [Option.map_some, changed, if_neg other]

namespace Tables

variable {e : Engine} {who : Principal} {t : Tables}

/-- A merchant that was written over is kept like a new one, if its owner and its date of creation
stay. -/
theorem get?_updateMerchant_kept {m old : Merchant} (stored : t.merchants.get? m.id = some old)
    (owner : m.owner = old.owner) (created : m.created = old.created) :
    (t.updateMerchant e m).merchants.get? m.id = some (e.keptMerchant m) := by
  rw [updateMerchant, Table.get?_modify_self stored]
  cases e with
  | memory => rfl
  | sqlite =>
    rw [Engine.revisedMerchant, ← owner, ← created]
    rfl

theorem valued_detailed_kept (m : Merchant) :
    (t.detailed who (e.keptMerchant m)).valued = (t.detailed who m).valued := by
  simp only [Merchant.valued, detailed, Engine.keptMerchant, Merchant.row, Engine.map_keptFloat]
  rfl

/-- A merchant that is kept is read by its owner as it was written. -/
theorem owned_of_kept {m : Merchant} {id : Int}
    (stored : t.merchants.get? id = some (e.keptMerchant m)) (own : m.owner = who.id) :
    ∃ r, Merchants.ownedIn who id t = .ok r ∧
      (t.detailed who r).valued = (t.detailed who m).valued :=
  ⟨e.keptMerchant m, Merchants.ownedIn_of_get? stored own, valued_detailed_kept m⟩

theorem valued_keptPoint (p : GeoPoint) : (e.keptPoint p).valued = p.valued := by
  simp only [GeoPoint.valued, Engine.keptPoint, unsigned_keptFloat]

end Tables

namespace Merchants

variable {who : Principal} {d d' : Directory} {m : Merchant}

theorem create_stored {draft : MerchantDraft} (h : create who draft d = (.ok m, d')) :
    ∃ r, ownedIn who m.id d'.tables = .ok r ∧ (d'.tables.detailed who r).valued = m.valued := by
  rw [create_eq] at h
  obtain ⟨_, _, rfl, rfl⟩ := Action.guarded_eq_ok h
  let row := (d.tables.insertMerchant d.engine (.ofFields d.now draft.fields who.id)).1
  refine Tables.owned_of_kept (e := d.engine) (m := row) ?_ rfl
  have merchants : (d.tables.enroll d.engine d.now who draft).2.merchants = _ :=
    Tables.enroll_merchants d.now draft
  show Table.get? (d.tables.enroll d.engine d.now who draft).2.merchants d.tables.merchants.next = _
  rw [merchants, Tables.insertMerchant, Table.get?_insert_self]
  rfl

theorem update_stored {id : Int} {u : MerchantUpdate} (h : update who id u d = (.ok m, d')) :
    ∃ r, ownedIn who id d'.tables = .ok r ∧ (d'.tables.detailed who r).valued = m.valued := by
  rw [update_eq] at h
  obtain ⟨old, admitted, rfl, rfl⟩ := Action.guarded_eq_ok h
  obtain ⟨owned, _, _⟩ := admitUpdate_eq_ok.1 admitted
  obtain ⟨stored, own⟩ := ownedIn_eq_ok owned
  obtain rfl := id_of_ownedIn owned
  have columns : (d.tables.rewrite d.engine d.now who old.id u (old.apply d.now u.fields)).merchants =
      (d.tables.updateMerchant d.engine (old.apply d.now u.fields)).merchants := by
    rw [Tables.rewrite, Tables.mark_eq, (Tables.repoint_repoints ..).merchants, Tables.retag_eq]
  refine Tables.owned_of_kept (e := d.engine) (m := old.apply d.now u.fields) ?_ own
  show Table.get? (d.tables.rewrite d.engine d.now who old.id u
    (old.apply d.now u.fields)).merchants old.id = _
  rw [columns]
  exact Tables.get?_updateMerchant_kept (m := old.apply d.now u.fields) stored rfl rfl

theorem geocode_stored {chain : Option (List Provider)} {id : Int}
    (h : geocode chain who id d = (.ok m, d')) :
    ∃ r, ownedIn who id d'.tables = .ok r ∧ (d'.tables.detailed who r).valued = m.valued := by
  have done := geocode_geocoded chain who id d
  rw [h] at done
  cases done with
  | placed old p origin d₁ owned linked =>
    obtain ⟨stored, own⟩ := ownedIn_eq_ok owned
    obtain rfl := id_of_ownedIn owned
    rw [← linked.merchants] at stored
    exact Tables.owned_of_kept (e := d₁.engine) (m := placedAt (tried old) p origin)
      (Tables.get?_updateMerchant_kept (m := placedAt (tried old) p origin) stored rfl rfl) own

end Merchants

namespace Tags

variable {who : Principal} {d d' : Directory} {tag : Tag}

theorem create_stored {draft : TagDraft} (h : create who draft d = (.ok tag, d')) :
    ownedIn who tag.id d'.tables = .ok tag := by
  rw [create_eq] at h
  obtain ⟨_, _, rfl, rfl⟩ := Action.guarded_eq_ok h
  let row := (d.tables.insertTag d.engine (draft.toTag d.now who.id)).1
  have stored : Table.get? (d.tables.insertTag d.engine (draft.toTag d.now who.id)).2.tags
      d.tables.tags.next = some (d.engine.keptTag row) := by
    rw [Tables.insertTag, Table.get?_insert_self]
    cases d.engine <;> rfl
  have own : (d.engine.keptTag row).isOwnedBy who = true := by
    cases d.engine <;> exact decide_eq_true rfl
  show ownedIn who d.tables.tags.next (d.tables.insertTag d.engine (draft.toTag d.now who.id)).2 = _
  simp only [ownedIn, stored, own, if_true]
  cases d.engine <;> rfl

theorem update_stored {id : Int} {draft : TagDraft} (h : update who id draft d = (.ok tag, d')) :
    ownedIn who id d'.tables = .ok tag := by
  rw [update_eq] at h
  obtain ⟨seen, admitted, rfl, rfl⟩ := Action.guarded_eq_ok h
  obtain ⟨_, owned⟩ := admitUpdate_eq_ok.1 admitted
  obtain ⟨old, stored, own, rfl⟩ := ownedIn_eq_ok owned
  obtain rfl := Table.key_of_get? stored
  let row := (old.asSeenBy who).revise d.now draft
  have kept : Table.get? (d.tables.updateTag d.engine row).tags old.id =
      some (d.engine.revisedTag row old) := by
    refine (Table.get?_modify_self stored (d.engine.revisedTag row)).trans ?_
    cases d.engine <;> rfl
  have mine : (d.engine.revisedTag row old).isOwnedBy who = true := by
    cases d.engine <;> exact decide_eq_true own
  show ownedIn who old.id (d.tables.updateTag d.engine row) = .ok row
  simp only [ownedIn, kept, mine, if_true]
  cases d.engine <;> rfl

end Tags

namespace Points

variable {who : Principal} {d d' : Directory} {p : GeoPoint}

theorem requireMerchant_of_owns {id : Int} {t : Tables} (own : t.Owns who id) :
    requireMerchant who id t = .ok () := by
  obtain ⟨r, stored, mine⟩ := own
  simp only [requireMerchant, Merchants.ownedIn_of_get? stored mine]

/-- A point of a merchant of the caller can be read. -/
theorem accessibleIn_of_owns {id m : Int} {t : Tables} (stored : t.points.get? id = some p)
    (holder : p.merchant = some m) (own : t.Owns who m) : accessibleIn who id t = .ok p := by
  simp only [accessibleIn, stored, holder, requireMerchant_of_owns own]
  rfl

theorem create_stored {draft : GeoPointDraft} (h : create who draft d = (.ok p, d')) :
    ∃ r, accessibleIn who p.id d'.tables = .ok r ∧ r.valued = p.valued := by
  rw [create_eq] at h
  obtain ⟨_, admitted, rfl, rfl⟩ := Action.guarded_eq_ok h
  obtain ⟨m, holder, own⟩ := admitCreate_eq_ok admitted
  let row := (d.tables.insertPoint d.engine (draft.toPoint d.now)).1
  refine ⟨d.engine.keptPoint row, ?_, Tables.valued_keptPoint row⟩
  refine accessibleIn_of_owns ?_ holder (Tables.owns_of_merchants rfl own)
  show Table.get? (d.tables.points.insert (d.engine.keptPoint row)) d.tables.points.next = _
  rw [Table.get?_insert_self]
  rfl

theorem update_stored {id : Int} {draft : GeoPointDraft}
    (h : update who id draft d = (.ok p, d')) :
    ∃ r, accessibleIn who id d'.tables = .ok r ∧ r.valued = p.valued := by
  rw [update_eq] at h
  obtain ⟨old, admitted, rfl, rfl⟩ := Action.guarded_eq_ok h
  obtain ⟨stored, _, m, holder, own⟩ := admitUpdate_eq_ok admitted
  obtain rfl := Table.key_of_get? stored
  let row := old.revise d.now draft
  refine ⟨d.engine.keptPoint row, ?_, Tables.valued_keptPoint row⟩
  refine accessibleIn_of_owns ?_ holder (Tables.owns_of_merchants rfl own)
  refine (Table.get?_modify_self stored (d.engine.revisedPoint row)).trans ?_
  cases d.engine <;> rfl

end Points

/-! ## Reading again -/

namespace Command

/-- The command writes one row and answers it. -/
def writesRow : Command → Bool
  | .merchants (.create _) | .merchants (.update _ _) | .merchants (.geocode _ _) => true
  | .tags (.create _) | .tags (.update _ _) => true
  | .points (.create _) | .points (.update _ _) => true
  | _ => false

/-- The command that reads the row again: by the id that was asked for, or by the one that a new row
was given. -/
def readBack : Command → Reply → Option Command
  | .merchants (.create _), .merchant m => some (.merchants (.find m.id))
  | .merchants (.update id _), .merchant _ => some (.merchants (.find id))
  | .merchants (.geocode _ id), .merchant _ => some (.merchants (.find id))
  | .tags (.create _), .tag tag => some (.tags (.find tag.id))
  | .tags (.update id _), .tag _ => some (.tags (.find id))
  | .points (.create _), .point p => some (.points (.find p.id))
  | .points (.update id _), .point _ => some (.points (.find id))
  | _, _ => none

end Command

/-- At any moment the command answers the same value to the caller, and leaves the directory as it
is. -/
def ReadsBack (who : Principal) (d : Directory) (back : Command) (reply : Reply) : Prop :=
  ∀ moment, ∃ again, Turn.take ⟨who, moment, back⟩ d = (.ok again, { d with now := moment }) ∧
    again.valued = reply.valued

section

variable {who : Principal} {d : Directory} {id : Int}

theorem merchant_readsBack {m : Merchant} (h : ∃ r, Merchants.ownedIn who id d.tables = .ok r ∧
    (d.tables.detailed who r).valued = m.valued) :
    ReadsBack who d (.merchants (.find id)) (.merchant m) := by
  obtain ⟨r, owned, same⟩ := h
  intro moment
  refine ⟨.merchant (d.tables.detailed who r), ?_, congrArg Reply.merchant same⟩
  have found : Merchants.find who id { d with now := moment } = _ := Merchants.find_of_owned owned
  rw [Turn.take, Command.perform, MerchantCommand.perform, Action.map_apply, found]
  rfl

theorem tag_readsBack {tag : Tag} (h : Tags.ownedIn who id d.tables = .ok tag) :
    ReadsBack who d (.tags (.find id)) (.tag tag) := by
  intro moment
  refine ⟨.tag tag, ?_, rfl⟩
  have found : Tags.find who id { d with now := moment } = (.ok tag, { d with now := moment }) := by
    rw [Tags.find, Tags.owned, Action.check_apply, h]
  rw [Turn.take, Command.perform, TagCommand.perform, Action.map_apply, found]
  rfl

theorem point_readsBack {p : GeoPoint} (h : ∃ r, Points.accessibleIn who id d.tables = .ok r ∧
    r.valued = p.valued) : ReadsBack who d (.points (.find id)) (.point p) := by
  obtain ⟨r, accessible, same⟩ := h
  intro moment
  refine ⟨.point r, ?_, congrArg Reply.point same⟩
  have found : Points.find who id { d with now := moment } = (.ok r, { d with now := moment }) := by
    rw [Points.find, Points.accessible, Action.check_apply, accessible]
  rw [Turn.take, Command.perform, PointCommand.perform, Action.map_apply, found]
  rfl

end

/-- A command that wrote a row answers what reading the row answers right afterwards. -/
theorem Turn.take_readsBack {t : Turn} {d d' : Directory} {reply : Reply}
    (writes : t.command.writesRow = true) (h : t.take d = (.ok reply, d')) :
    ∃ back, t.command.readBack reply = some back ∧ ReadsBack t.who d' back reply := by
  obtain ⟨who, moment, command⟩ := t
  cases command with
  | merchants c =>
    cases c with
    | create draft =>
      obtain ⟨m, made, rfl⟩ := Action.map_eq_ok h
      exact ⟨_, rfl, merchant_readsBack (Merchants.create_stored made)⟩
    | update id u =>
      obtain ⟨m, made, rfl⟩ := Action.map_eq_ok h
      exact ⟨_, rfl, merchant_readsBack (Merchants.update_stored made)⟩
    | geocode chain id =>
      obtain ⟨m, made, rfl⟩ := Action.map_eq_ok h
      exact ⟨_, rfl, merchant_readsBack (Merchants.geocode_stored made)⟩
    | _ => cases writes
  | tags c =>
    cases c with
    | create draft =>
      obtain ⟨tag, made, rfl⟩ := Action.map_eq_ok h
      exact ⟨_, rfl, tag_readsBack (Tags.create_stored made)⟩
    | update id draft =>
      obtain ⟨tag, made, rfl⟩ := Action.map_eq_ok h
      exact ⟨_, rfl, tag_readsBack (Tags.update_stored made)⟩
    | _ => cases writes
  | points c =>
    cases c with
    | create draft =>
      obtain ⟨p, made, rfl⟩ := Action.map_eq_ok h
      exact ⟨_, rfl, point_readsBack (Points.create_stored made)⟩
    | update id draft =>
      obtain ⟨p, made, rfl⟩ := Action.map_eq_ok h
      exact ⟨_, rfl, point_readsBack (Points.update_stored made)⟩
    | _ => cases writes
  | _ => cases writes

/-- In every directory, whichever engine keeps it: the list without a search and without pages has
the caller's own merchants in the order of their ids, each as reading it by its id shows it; and what
a turn answers that wrote a row is what reading the row answers right afterwards. -/
theorem reads_agree (d : Directory) :
    (∀ (who : Principal) (paging : Paging), paging.window = none →
      ∃ items : List Merchant,
        Merchants.list who "" paging d = (.ok ⟨items, items.length⟩, d) ∧
        items.map Merchant.id = (d.tables.ownMerchants who).map Merchant.id ∧
        items.Pairwise (fun a b => a.id < b.id) ∧
        ∀ m ∈ items, Merchants.find who m.id d = (.ok m, d)) ∧
    ∀ (t : Turn) (reply : Reply) (d' : Directory), t.command.writesRow = true →
      t.take d = (.ok reply, d') →
      ∃ back, t.command.readBack reply = some back ∧ ReadsBack t.who d' back reply := by
  refine ⟨?_, fun t reply d' writes taken => t.take_readsBack writes taken⟩
  intro who paging whole
  let shown := d.tables.detailed who
  refine ⟨(d.tables.ownMerchants who).map shown, ?_, ?_, ?_, ?_⟩
  · rw [Merchants.list_all who whole, List.length_map]
  · rw [List.map_map]
    rfl
  · rw [List.pairwise_map]
    exact d.tables.merchants.increasing.filter _
  · intro m hm
    obtain ⟨r, own, rfl⟩ := List.mem_map.1 hm
    exact Merchants.find_of_owned (Merchants.ownedIn_of_mem own)

/-- A bakery with one tag twice, in the database: listed, and then given a place on the equator. -/
theorem reads_agree_on_bakery :
    let ada : Principal := ⟨1, "ada"⟩
    let bakery : MerchantFields := { MerchantFields.blank with title := "Bakery" }
    let placed : MerchantFields := { bakery with longitude := some 13.4, latitude := some (-0.0) }
    let d := run [⟨ada, default, .tags (.create ⟨"bread", "", "", "", ""⟩)⟩,
      ⟨ada, default, .merchants (.create ⟨bakery, [1, 1], [], true⟩)⟩] (.empty .sqlite default)
    let update : Turn := ⟨ada, default, .merchants (.update 1 ⟨placed, none, none, none⟩)⟩
    (∃ items : List Merchant, Merchants.list ada "" .all d = (.ok ⟨items, items.length⟩, d) ∧
      items.map Merchant.id = [1] ∧ ∀ m ∈ items, Merchants.find ada m.id d = (.ok m, d)) ∧
    ∃ reply, (update.take d).1 = .ok reply ∧
      ReadsBack ada (update.take d).2 (.merchants (.find 1)) reply := by
  intro ada bakery placed d update
  have own : (d.tables.ownMerchants ada).map Merchant.id = [1] := by decide +kernel
  have updated : (update.take d).1.isOk = true := by decide +kernel
  obtain ⟨lists, written⟩ := reads_agree d
  refine ⟨?_, ?_⟩
  · obtain ⟨items, listed, ids, _, found⟩ := lists ada .all rfl
    exact ⟨items, listed, ids.trans own, found⟩
  · obtain ⟨reply, answered⟩ := ok_of_isOk updated
    obtain ⟨back, asked, same⟩ := written update reply (update.take d).2 rfl (Prod.ext answered rfl)
    cases reply with
    | merchant m =>
      cases asked
      exact ⟨_, answered, same⟩
    | _ => cases asked

end Gazetteer
