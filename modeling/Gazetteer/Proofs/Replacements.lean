import Gazetteer.Proofs.ReadBack

/-!
# What an update of a merchant replaces

An update may give a merchant new tags, new points and a favorite mark, each on its own. Whatever is
given replaces what was there. What is not given stays, and other merchants keep theirs, but for the
points that the update takes over.

* `GeoPoint.reassigned`: a point as an update leaves it that names the points of a merchant.
* `retag_relations`, `repoint_eq`, `isFavorite_mark`: each replacement by itself.
* `Tables.Replaced`: all three of them, and what stays.
* `update_replaces`: an update that succeeds replaces so, in whatever order the points are named.
-/

set_option autoImplicit false

namespace Gazetteer

/-- The point as it is after a merchant was given the named points in place of all others. -/
def GeoPoint.reassigned (merchant : Int) (named : List Int) (p : GeoPoint) : GeoPoint :=
  { p with
    merchant :=
      if p.id ∈ named then some merchant
      else if p.merchant = some merchant then none
      else p.merchant }

namespace GeoPoint

variable {m : Int} {named : List Int} {p : GeoPoint}

theorem reassigned_congr {named' : List Int} (same : ∀ i, i ∈ named' ↔ i ∈ named) :
    reassigned m named' = reassigned m named := by
  funext p
  simp only [reassigned, same]

/-- The merchant holds the named points and no others. -/
theorem reassigned_held : (p.reassigned m named).merchant = some m ↔ p.id ∈ named := by
  by_cases given : p.id ∈ named
  · simp [reassigned, given]
  · by_cases held : p.merchant = some m <;> simp [reassigned, given, held]

/-- Another merchant holds what it held and was not named. -/
theorem reassigned_held_of_ne {other : Int} (ne : other ≠ m) :
    (p.reassigned m named).merchant = some other ↔ p.merchant = some other ∧ p.id ∉ named := by
  by_cases given : p.id ∈ named
  · simp [reassigned, given, ne.symm]
  · by_cases held : p.merchant = some m
    · simp [reassigned, given, held, ne.symm]
    · simp [reassigned, given, held]

/-- A point that is neither named nor held stays as it is. -/
theorem reassigned_of_out (out : p.id ∉ named) (free : p.merchant ≠ some m) :
    p.reassigned m named = p := by
  simp [reassigned, out, free]

end GeoPoint

/-! ## The points -/

namespace Tables

variable {t : Tables} {id : Int}

theorem setPointMerchant_rows (i : Int) (target : Option Int) (t : Tables) :
    (t.setPointMerchant i target).points.rows =
      t.points.rows.map fun p => if p.id = i then { p with merchant := target } else p := by
  refine List.map_congr_left ?_
  intro p _
  rw [Table.changed]
  split
  · next hk =>
    obtain rfl := hk
    exact (if_pos rfl).symm
  · next hk => exact (if_neg hk).symm

/-- Of points that go to one target one after another, each goes there however often it is named. -/
theorem movePoints_rows (target : Option Int) (ids : List Int) (t : Tables) :
    (t.movePoints target ids).points.rows =
      t.points.rows.map fun p => if p.id ∈ ids then { p with merchant := target } else p := by
  induction ids generalizing t with
  | nil => simp [movePoints]
  | cons i rest ih =>
    rw [movePoints, List.foldl_cons]
    refine (ih (t.setPointMerchant i target)).trans ?_
    rw [setPointMerchant_rows, List.map_map]
    refine List.map_congr_left ?_
    intro p _
    by_cases first : p.id = i <;> by_cases later : p.id ∈ rest <;> simp [first, later]

/-- A merchant holds a stored point if it holds one with the same id. -/
theorem mem_pointsOf_ids {p : GeoPoint} (stored : p ∈ t.points.rows) :
    p.id ∈ (t.pointsOf id).map GeoPoint.id ↔ p.merchant = some id := by
  refine ⟨?_, ?_⟩
  · intro named
    obtain ⟨q, held, same⟩ := List.mem_map.1 named
    obtain ⟨there, holder⟩ := List.mem_filter.1 held
    have found : t.points.get? p.id = some q := by
      rw [← same]
      exact Table.get?_of_mem there
    cases (Table.get?_of_mem stored).symm.trans found
    exact of_decide_eq_true holder
  · intro holder
    exact List.mem_map.2 ⟨p, List.mem_filter.2 ⟨stored, decide_eq_true holder⟩, rfl⟩

/-- A stored point is released if the merchant holds it and it is not kept. -/
theorem mem_released {kept : List Int} {p : GeoPoint} (stored : p ∈ t.points.rows) :
    p.id ∈ ((t.pointsOf id).filter fun q => !kept.contains q.id).map GeoPoint.id ↔
      p.merchant = some id ∧ p.id ∉ kept := by
  rw [← mem_pointsOf_ids stored]
  simp only [List.mem_map, List.mem_filter, Bool.not_eq_true', List.contains_eq_mem,
    decide_eq_false_iff_not]
  refine ⟨?_, ?_⟩
  · rintro ⟨q, ⟨held, out⟩, same⟩
    exact ⟨⟨q, held, same⟩, same ▸ out⟩
  · rintro ⟨⟨q, held, same⟩, out⟩
    exact ⟨q, ⟨held, same ▸ out⟩, same⟩

theorem movePoints_last (target : Option Int) (ids : List Int) (t : Tables) :
    (t.movePoints target ids).points.last = t.points.last := by
  induction ids generalizing t with
  | nil => rfl
  | cons i rest ih => exact ih (t.setPointMerchant i target)

/-- Points are released and given away one by one. Together that is one change of every point, which
the order does not enter. -/
theorem repoint_eq (id : Int) (ids : List Int) (t : Tables) :
    t.repoint id (some ids) =
      { t with points := t.points.mapRows (GeoPoint.reassigned id ids) fun _ => rfl } := by
  have points : (t.repoint id (some ids)).points =
      t.points.mapRows (GeoPoint.reassigned id ids) fun _ => rfl := by
    rw [repoint, holdPoints_eq, releasePoints_eq]
    refine Table.ext_rows ?_ ?_
    · rw [movePoints_rows, movePoints_rows, List.map_map]
      refine List.map_congr_left ?_
      intro p stored
      have released : p.id ∈ ((t.pointsOf id).filter fun q => !ids.contains q.id).map GeoPoint.id ↔
          p.merchant = some id ∧ p.id ∉ ids := mem_released stored
      generalize ((t.pointsOf id).filter fun q => !ids.contains q.id).map GeoPoint.id = gone
        at released ⊢
      by_cases given : p.id ∈ ids
      · simp [GeoPoint.reassigned, released, given]
      · by_cases held : p.merchant = some id <;>
          simp [GeoPoint.reassigned, released, given, held]
    · rw [movePoints_last, movePoints_last]
      rfl
  rw [repoint_repoints id (some ids) t, points]

theorem repoint_congr {ids ids' : List Int} (same : ∀ i, i ∈ ids' ↔ i ∈ ids) (t : Tables) :
    t.repoint id (some ids') = t.repoint id (some ids) := by
  simp only [repoint_eq, GeoPoint.reassigned_congr same]

/-- The merchant holds the named points of those that are stored. -/
theorem mem_pointsOf_repoint {ids : List Int} {i : Int} :
    (∃ p ∈ (t.repoint id (some ids)).pointsOf id, p.id = i) ↔
      i ∈ ids ∧ ∃ p, t.points.get? i = some p := by
  rw [repoint_eq]
  refine ⟨?_, ?_⟩
  · rintro ⟨_, hp, rfl⟩
    obtain ⟨hp, holder⟩ := List.mem_filter.1 hp
    obtain ⟨p, stored, rfl⟩ := List.mem_map.1 hp
    have named : p.id ∈ ids := GeoPoint.reassigned_held.1 (of_decide_eq_true holder)
    exact ⟨named, p, Table.get?_of_mem stored⟩
  · rintro ⟨named, p, stored⟩
    obtain rfl := Table.key_of_get? stored
    refine ⟨p.reassigned id ids, List.mem_filter.2 ⟨?_, ?_⟩, rfl⟩
    · exact List.mem_map_of_mem (Table.mem_of_get? stored)
    · exact decide_eq_true (GeoPoint.reassigned_held.2 named)

/-- Another merchant keeps the points that it held and that were not named. -/
theorem pointsOf_repoint_of_ne {ids : List Int} {m : Int} (ne : m ≠ id) :
    (t.repoint id (some ids)).pointsOf m = (t.pointsOf m).filter (·.id ∉ ids) := by
  rw [repoint_eq, pointsOf, pointsOf]
  show (t.points.rows.map (GeoPoint.reassigned id ids)).filter _ = _
  rw [List.filter_map, List.filter_filter]
  have kept : t.points.rows.filter
      ((fun q => decide (q.merchant = some m)) ∘ GeoPoint.reassigned id ids) =
      t.points.rows.filter fun p => decide (p.id ∉ ids) && decide (p.merchant = some m) := by
    refine List.filter_congr ?_
    intro p _
    rw [Bool.eq_iff_iff, Function.comp_apply, decide_eq_true_eq, Bool.and_eq_true,
      decide_eq_true_eq, decide_eq_true_eq, GeoPoint.reassigned_held_of_ne ne, and_comm]
  rw [kept]
  refine (List.map_congr_left ?_).trans (List.map_id _)
  intro p hp
  obtain ⟨_, selected⟩ := List.mem_filter.1 hp
  obtain ⟨out, holder⟩ := Bool.and_eq_true_iff.1 selected
  refine GeoPoint.reassigned_of_out (of_decide_eq_true out) ?_
  rw [of_decide_eq_true holder]
  exact fun same => ne (Option.some.inj same)

/-! ## The tags and the favorite mark -/

theorem retag_relations (now : Timestamp) (id : Int) (ids : List Int) (t : Tables) :
    (t.retag now id (some ids)).relations =
      t.relations.filter (·.merchant ≠ id) ++
        (ids.filter (0 < ·)).map fun tag => ⟨id, tag, now⟩ := by
  rw [retag, linkTags_eq]
  rfl

theorem relationsOf_retag (now : Timestamp) (id : Int) (ids : List Int) (t : Tables) :
    (t.retag now id (some ids)).relationsOf [id] =
      (ids.filter (0 < ·)).map fun tag => ⟨id, tag, now⟩ := by
  rw [relationsOf, retag_relations, List.filter_append, List.filter_filter]
  have others : ∀ r ∈ t.relations,
      ¬([id].contains r.merchant && decide (r.merchant ≠ id)) = true := by
    intro r _
    simp
  have own : ∀ r ∈ (ids.filter (0 < ·)).map fun tag => (⟨id, tag, now⟩ : Relation),
      [id].contains r.merchant = true := by
    intro r hr
    obtain ⟨tag, _, rfl⟩ := List.mem_map.1 hr
    simp
  rw [List.filter_eq_nil_iff.2 others, List.filter_eq_self.2 own, List.nil_append]

/-- Relations of other merchants stay, in their order. -/
theorem retag_others (now : Timestamp) (id : Int) (tags : Option (List Int)) (t : Tables) :
    (t.retag now id tags).relations.filter (·.merchant ≠ id) =
      t.relations.filter (·.merchant ≠ id) := by
  cases tags with
  | none => rfl
  | some ids =>
    have own : ∀ r ∈ (ids.filter (0 < ·)).map fun tag => (⟨id, tag, now⟩ : Relation),
        ¬decide (r.merchant ≠ id) = true := by
      intro r hr
      obtain ⟨tag, _, rfl⟩ := List.mem_map.1 hr
      simp
    rw [retag_relations, List.filter_append, List.filter_eq_nil_iff.2 own, List.append_nil,
      List.filter_filter]
    simp only [Bool.and_self]

theorem isFavorite_mark (user id : Int) (b : Bool) (t : Tables) :
    (t.mark user id (some b)).isFavorite user id = b := by
  cases b with
  | true =>
    rw [mark, addFavorite]
    split
    · next marked => exact marked
    · simp [isFavorite]
  | false => simp [mark, removeFavorite, isFavorite]

/-- Other marks stay: those of other users, and those on other merchants. -/
theorem mark_others (user id : Int) (mark : Option Bool) (t : Tables) :
    (t.mark user id mark).favorites.filter (· ≠ ⟨user, id⟩) =
      t.favorites.filter (· ≠ ⟨user, id⟩) := by
  cases mark with
  | none => rfl
  | some b =>
    cases b with
    | true =>
      rw [Tables.mark, addFavorite]
      split
      · rfl
      · simp [List.filter_append]
    | false =>
      rw [Tables.mark, removeFavorite, List.filter_filter]
      simp only [Bool.and_self]

/-- A mark looks at the favorites only. -/
theorem mark_favorites (user id : Int) (mark : Option Bool) {t t' : Tables}
    (h : t.favorites = t'.favorites) :
    (t.mark user id mark).favorites = (t'.mark user id mark).favorites := by
  cases mark with
  | none => exact h
  | some b =>
    cases b with
    | true =>
      rw [Tables.mark, Tables.mark, addFavorite, addFavorite, isFavorite, isFavorite, h]
      split
      · exact h
      · rfl
    | false =>
      rw [Tables.mark, Tables.mark, removeFavorite, removeFavorite, h]

theorem rewrite_favorites {e : Engine} {who : Principal} (now : Timestamp) (u : MerchantUpdate)
    (m : Merchant) :
    (t.rewrite e now who id u m).favorites = (t.mark who.id id u.isFavorite).favorites := by
  refine mark_favorites who.id id u.isFavorite ?_
  rw [repoint_repoints, retag_eq]
  rfl

/-! ## All of them -/

/-- What an update of a merchant gave took the place of what was there, and all else stayed. -/
structure Replaced (who : Principal) (now : Timestamp) (id : Int) (u : MerchantUpdate)
    (t t' : Tables) : Prop where
  /-- The tags with positive ids, in the order in which and as often as they were named. -/
  tagged : ∀ ids, u.tagIds = some ids →
    t'.relationsOf [id] = (ids.filter (0 < ·)).map fun tag => ⟨id, tag, now⟩
  tagsStay : u.tagIds = none → t'.relations = t.relations
  othersTagged : t'.relations.filter (·.merchant ≠ id) = t.relations.filter (·.merchant ≠ id)
  /-- Of a point nothing but its holder is different. -/
  reassigned : ∀ ids, u.pointIds = some ids →
    t'.points = t.points.mapRows (GeoPoint.reassigned id ids) fun _ => rfl
  held : ∀ ids, u.pointIds = some ids → ∀ i, i ∈ ids ↔ ∃ p ∈ t'.pointsOf id, p.id = i
  pointsStay : u.pointIds = none → t'.points = t.points
  othersHold : ∀ m, m ≠ id → t'.pointsOf m = (t.pointsOf m).filter (·.id ∉ u.pointIds.getD [])
  marked : ∀ b, u.isFavorite = some b → t'.isFavorite who.id id = b
  marksStay : u.isFavorite = none → t'.favorites = t.favorites
  othersMarked :
    t'.favorites.filter (· ≠ ⟨who.id, id⟩) = t.favorites.filter (· ≠ ⟨who.id, id⟩)
  tagRows : t'.tags = t.tags
  merchantRows : ∀ m, m ≠ id → t'.merchants.get? m = t.merchants.get? m

theorem rewrite_replaced {e : Engine} {who : Principal} {u : MerchantUpdate} {m : Merchant}
    (now : Timestamp) (named : m.id = id)
    (stored : ∀ i ∈ u.pointIds.getD [], ∃ p, t.points.get? i = some p) :
    t.Replaced who now id u (t.rewrite e now who id u m) := by
  have favorites : (t.rewrite e now who id u m).favorites =
      (t.mark who.id id u.isFavorite).favorites := rewrite_favorites now u m
  rw [rewrite_columns, favorites]
  refine ⟨?tagged, ?tagsStay, retag_others .., ?reassigned, ?held, ?pointsStay, ?othersHold,
    ?marked, ?marksStay, mark_others .., rfl, ?merchantRows⟩
  case tagged =>
    intro ids given
    simp only [given]
    exact relationsOf_retag now id ids t
  case tagsStay =>
    intro absent
    simp only [absent]
    rfl
  case reassigned =>
    intro ids given
    simp only [given, repoint_eq]
  case held =>
    intro ids given i
    rw [given] at stored
    simp only [given]
    refine ⟨fun hi => mem_pointsOf_repoint.2 ⟨hi, stored i hi⟩, ?_⟩
    intro holds
    exact (mem_pointsOf_repoint.1 holds).1
  case pointsStay =>
    intro absent
    simp only [absent]
    rfl
  case othersHold =>
    intro other ne
    cases given : u.pointIds with
    | none =>
      simp only [Option.getD_none, List.not_mem_nil, not_false_eq_true, decide_true,
        List.filter_true]
      rfl
    | some ids => exact pointsOf_repoint_of_ne ne
  case marked =>
    intro b given
    simp only [given]
    exact isFavorite_mark who.id id b t
  case marksStay =>
    intro absent
    simp only [absent]
    rfl
  case merchantRows =>
    intro other ne
    rw [← named] at ne
    exact Table.get?_modify_of_ne ne _

end Tables

/-! ## The call -/

namespace Merchants

variable {who : Principal} {id : Int}

/-- An update of a merchant that succeeds replaces what it was given and leaves everything else:
tags and points and marks of others, but for the points that were named, and of those it changes the
holder only. In which order the points are named, and how often, makes no difference. -/
theorem update_replaces {u : MerchantUpdate} {d d' : Directory} {m : Merchant}
    (h : update who id u d = (.ok m, d')) :
    d.tables.Replaced who d.now id u d'.tables ∧
    ∀ ids ids', u.pointIds = some ids → (∀ i, i ∈ ids' ↔ i ∈ ids) →
      update who id { u with pointIds := some ids' } d = (.ok m, d') := by
  rw [update_eq] at h
  obtain ⟨old, admitted, rfl, rfl⟩ := Action.guarded_eq_ok h
  obtain ⟨owned, checked, linked⟩ := admitUpdate_eq_ok.1 admitted
  have named : old.id = id := id_of_ownedIn owned
  refine ⟨Tables.rewrite_replaced d.now named fun i hi => stored_of_linkable (linked i hi), ?_⟩
  intro ids ids' given same
  rw [given] at linked
  have again : admitUpdate who id { u with pointIds := some ids' } d.tables = .ok old :=
    admitUpdate_eq_ok.2 ⟨owned, checked, fun i hi => linked i ((same i).1 hi)⟩
  have rewritten : ∀ row,
      d.tables.rewrite d.engine d.now who id { u with pointIds := some ids' } row =
        d.tables.rewrite d.engine d.now who id u row := by
    intro row
    rw [Tables.rewrite, Tables.rewrite, given, Tables.repoint_congr same]
  rw [update_eq, Action.guarded_of_ok again]
  simp only [rewritten]

/-- A bakery with two points takes over one of a butcher, gives one up, and is tagged anew. -/
theorem update_replaces_in_bakery :
    let ada : Principal := ⟨1, "ada"⟩
    let draft (title : String) : MerchantDraft :=
      ⟨{ MerchantFields.blank with title := title }, [], [], false⟩
    let point (m : Int) : GeoPointDraft := ⟨some m, "", 0, 0, "", 0, ""⟩
    let d := run [⟨ada, default, .merchants (.create (draft "Bakery"))⟩,
      ⟨ada, default, .merchants (.create (draft "Butcher"))⟩,
      ⟨ada, default, .points (.create (point 1))⟩, ⟨ada, default, .points (.create (point 2))⟩,
      ⟨ada, default, .points (.create (point 1))⟩] (.empty .memory default)
    let u : MerchantUpdate := ⟨(draft "Bakery").fields, some [7, -1, 7], some [2, 3, 2], some true⟩
    (update ada 1 u d).1.isOk = true ∧
      d.tables.Replaced ada d.now 1 u (update ada 1 u d).2.tables ∧
      ((update ada 1 u d).2.tables.relationsOf [1]).map Relation.tag = [7, 7] ∧
      ((update ada 1 u d).2.tables.pointsOf 1).map GeoPoint.id = [2, 3] ∧
      (update ada 1 u d).2.tables.pointsOf 2 = [] ∧
      update ada 1 { u with pointIds := some [3, 2] } d = update ada 1 u d := by
  intro ada draft point d u
  have updated : (update ada 1 u d).1.isOk = true := by decide +kernel
  have points : ((update ada 1 u d).2.tables.pointsOf 1).map GeoPoint.id = [2, 3] := by
    decide +kernel
  obtain ⟨m, answered⟩ := ok_of_isOk updated
  have done : update ada 1 u d = (.ok m, (update ada 1 u d).2) := Prod.ext answered rfl
  obtain ⟨replaced, again⟩ := update_replaces done
  refine ⟨updated, replaced, ?_, points, ?_, ?_⟩
  · rw [replaced.tagged _ rfl]
    rfl
  · rw [replaced.othersHold 2 (by decide)]
    refine List.filter_eq_nil_iff.2 ?_
    decide +kernel
  · rw [again _ [3, 2] rfl (by simp [or_comm]), ← done]

end Merchants

end Gazetteer
