import Gazetteer.Proofs.JsonReading
import Gazetteer.Proofs.Validity

/-!
# Where points are

The place of a point and whose it is, without regard to its id and its dates. The first point on
record for an address is the one that jobs of imports look at and copy.

* `Placement`, `Tables.placements`: the places of all points.
* `Table.cons_modify_perm`: the change of one row, up to the order of rows.
* `Tables.pointFor?_insertPoint`, `Tables.pointFor?_setPointMerchant`: what is on record after a
  point was added or changed hands.
* `Tables.record?`: the point on record for the address of an imported merchant.
* `GeoPoint.Copyable`: a point from which copies can be made.
* `Attainable.kept`: points are stored in the form in which they are read back.
-/

set_option autoImplicit false

namespace Gazetteer

/-! ## Placements -/

structure Placement where
  merchant : Option Int
  source : String
  address : String
  longitude : Float
  latitude : Float
  accuracy : Int

def GeoPoint.placement (p : GeoPoint) : Placement :=
  ⟨p.merchant, p.source, p.address, p.longitude, p.latitude, p.accuracy⟩

/-- The same place for another holder. -/
def Placement.heldBy (m : Option Int) (p : Placement) : Placement := { p with merchant := m }

/-- A change of one row takes one row away and adds another one. -/
theorem Table.cons_modify_perm {α : Type} [Keyed α] {t : Table α} {r : α} (stored : r ∈ t.rows)
    (f : α → α) :
    (r :: (t.modify (key r) f).rows).Perm (withKey (key r) (f r) :: t.rows) := by
  obtain ⟨front, back, split⟩ := List.append_of_mem stored
  have distinct := t.keys_nodup
  rw [split, List.map_append, List.map_cons, List.nodup_middle, List.nodup_cons,
    ← List.map_append] at distinct
  have others : ∀ x ∈ front ++ back, changed (key r) f x = x := by
    intro x hx
    have other : key x ≠ key r := fun same => distinct.1 (same ▸ List.mem_map_of_mem hx)
    rw [changed, if_neg other]
  have same : (front ++ back).map (changed (key r) f) = front ++ back :=
    (List.map_congr_left others).trans (List.map_id _)
  have rows : (t.modify (key r) f).rows =
      front.map (changed (key r) f) ++ withKey (key r) (f r) :: back.map (changed (key r) f) := by
    show t.rows.map _ = _
    rw [split, List.map_append, List.map_cons, changed, if_pos rfl]
  rw [List.map_append] at same
  rw [rows, split]
  refine (List.Perm.cons _ List.perm_middle).trans ?_
  rw [same]
  exact (List.Perm.swap ..).trans (List.Perm.cons _ List.perm_middle.symm)

namespace Tables

/-- The places of all points. -/
def placements (t : Tables) : Multiset Placement := ↑(t.points.rows.map GeoPoint.placement)

variable {e : Engine} {t : Tables}

theorem placements_insertPoint (p : GeoPoint) :
    (t.insertPoint e p).2.placements = t.placements + {(e.keptPoint p).placement} := by
  rw [placements, placements, ← Multiset.coe_singleton, Multiset.coe_add]
  show ((t.points.rows ++ [_]).map GeoPoint.placement : Multiset Placement) = _
  rw [List.map_append]
  rfl

theorem placements_setPointMerchant {p : GeoPoint} (stored : p ∈ t.points.rows)
    (m : Option Int) :
    (t.setPointMerchant p.id m).placements + {p.placement} =
      t.placements + {p.placement.heldBy m} := by
  have perm := (Table.cons_modify_perm stored fun p => { p with merchant := m }).map
    GeoPoint.placement
  have same : (p.placement ::ₘ (t.setPointMerchant p.id m).placements) =
      p.placement.heldBy m ::ₘ t.placements := Quot.sound perm
  rw [Multiset.add_comm, Multiset.singleton_add, same, Multiset.add_comm, Multiset.singleton_add]

theorem countP_placements (m : Int) (t : Tables) :
    t.placements.countP (·.merchant = some m) = (t.pointsOf m).length := by
  rw [placements, Multiset.coe_countP, List.countP_map, pointsOf, ← List.countP_eq_length_filter]
  rfl

/-! ## The point on record -/

/-- A new point is on record when none was. -/
theorem pointFor?_insertPoint (p : GeoPoint) (address source : String) :
    (t.insertPoint e p).2.pointFor? address source =
      (t.pointFor? address source).or
        (if p.address = address ∧ p.source = source then some (e.keptPoint (t.insertPoint e p).1)
        else none) := by
  rw [pointFor?, pointFor?]
  show List.find? _ (t.points.rows ++ [e.keptPoint (t.insertPoint e p).1]) = _
  rw [List.find?_append, List.find?_singleton]
  congr 1
  refine if_congr ?_ rfl rfl
  show (p.address == address && p.source == source) = true ↔ _
  simp

/-- A point that changes hands stays on record. -/
theorem pointFor?_setPointMerchant (i : Int) (m : Option Int) (address source : String) :
    (t.setPointMerchant i m).pointFor? address source =
      (t.pointFor? address source).map (Table.changed i fun p => { p with merchant := m }) := by
  have unchanged : ∀ p : GeoPoint,
      (Table.changed i (fun p => { p with merchant := m }) p).address = p.address ∧
        (Table.changed i (fun p => { p with merchant := m }) p).source = p.source := by
    intro p
    rw [Table.changed]
    split <;> exact ⟨rfl, rfl⟩
  rw [pointFor?, pointFor?]
  show List.find? _ (t.points.rows.map _) = _
  rw [List.find?_map]
  congr 2
  funext p
  obtain ⟨address, source⟩ := unchanged p
  rw [Function.comp, address, source]

/-- The point on record for the address of an imported merchant. A blank address has none. -/
def record? (address : String) (t : Tables) : Option GeoPoint :=
  if Text.isBlankText address then none else t.pointFor? address Import.source

theorem pointFor?_of_record? {address : String} {p : GeoPoint} (h : t.record? address = some p) :
    Text.isBlankText address = false ∧ t.pointFor? address Import.source = some p := by
  rw [record?] at h
  split at h
  · cases h
  · next shown => exact ⟨by simpa using shown, h⟩

theorem mem_of_record? {address : String} {p : GeoPoint} (h : t.record? address = some p) :
    p ∈ t.points.rows ∧ p.address = address ∧ p.source = Import.source :=
  pointFor?_some (pointFor?_of_record? h).2

theorem record?_insertPoint (p : GeoPoint) (address : String) :
    (t.insertPoint e p).2.record? address =
      (t.record? address).or
        (if Text.isBlankText address = false ∧ p.address = address ∧ p.source = Import.source then
          some (e.keptPoint (t.insertPoint e p).1)
        else none) := by
  rw [record?, record?]
  cases blank : Text.isBlankText address with
  | true => rfl
  | false =>
    rw [if_neg Bool.false_ne_true, if_neg Bool.false_ne_true, pointFor?_insertPoint]
    simp only [true_and]

/-- Another point for an address with a point on record stands behind that one. -/
theorem record?_insertPoint_of_some {p q : GeoPoint} (known : t.record? q.address = some p)
    (address : String) : (t.insertPoint e q).2.record? address = t.record? address := by
  rw [record?_insertPoint]
  by_cases same : q.address = address
  · rw [← same, known]
    rfl
  · rw [if_neg fun h => same h.2.1, Option.or_none]

theorem record?_insertPoint_of_none {q : GeoPoint} (shown : Text.isBlankText q.address = false)
    (source : q.source = Import.source) (new : t.record? q.address = none) :
    (t.insertPoint e q).2.record? q.address = some (e.keptPoint (t.insertPoint e q).1) := by
  rw [record?_insertPoint, new, if_pos ⟨shown, rfl, source⟩]
  rfl

theorem record?_insertPoint_of_ne {q : GeoPoint} {address : String} (ne : address ≠ q.address) :
    (t.insertPoint e q).2.record? address = t.record? address := by
  rw [record?_insertPoint, if_neg fun h => ne h.2.1.symm, Option.or_none]

theorem record?_setPointMerchant (i : Int) (m : Option Int) (address : String) :
    (t.setPointMerchant i m).record? address =
      (t.record? address).map (Table.changed i fun p => { p with merchant := m }) := by
  rw [record?, record?]
  split
  · rfl
  · exact pointFor?_setPointMerchant i m address Import.source

end Tables

/-! ## Points that can be copied -/

namespace Engine

theorem keptFloat_keptFloat (e : Engine) (x : Float) :
    e.keptFloat (e.keptFloat x) = e.keptFloat x := by
  cases e with
  | memory => rfl
  | sqlite => exact unsigned_unsigned x

theorem keptPoint_keptPoint (e : Engine) (p : GeoPoint) :
    e.keptPoint (e.keptPoint p) = e.keptPoint p := by
  rw [keptPoint, keptPoint, keptFloat_keptFloat, keptFloat_keptFloat]

end Engine

/-- Points are stored in the form in which they are read back. -/
def Tables.PointsKept (e : Engine) (t : Tables) : Prop :=
  ∀ p ∈ t.points.rows, e.keptPoint p = p

namespace Tables.PointsKept

variable {e : Engine} {t : Tables}

theorem insertPoint (h : t.PointsKept e) (p : GeoPoint) : (t.insertPoint e p).2.PointsKept e :=
  Table.forall_insert h (e.keptPoint_keptPoint (t.insertPoint e p).1)

theorem setPointMerchant (h : t.PointsKept e) (i : Int) (m : Option Int) :
    (t.setPointMerchant i m).PointsKept e := by
  refine Table.forall_modify h ?_
  intro p hp
  exact congrArg (fun p : GeoPoint => withKey i { p with merchant := m }) (h p hp)

end Tables.PointsKept

theorem Write.pointsKept {e : Engine} {who : Principal} {t t' : Tables} (w : Write e who t t')
    (h : t.PointsKept e) : t'.PointsKept e := by
  cases w with
  | expel id _ own => exact Table.forall_keep h
  | addPoint p _ own => exact h.insertPoint p
  | rewritePoint p old _ stored free own =>
    refine Table.forall_modify h ?_
    intro q _
    cases e
    · rfl
    · exact congrArg (fun p : GeoPoint => { p with created := q.created })
        (Engine.keptPoint_keptPoint .sqlite (withKey p.id p))
  | removePoint id _ takes => exact Table.forall_keep h
  | movePoint id target _ takes own => exact h.setPointMerchant id target
  | favor id _ own =>
    rw [Tables.addFavorite_eq]
    exact h
  | _ => exact h

theorem Geocoding.Linked.pointsKept {job : Job} {d : Directory}
    {r : Except Failure GeoPoint × Directory} (linked : Linked job d r)
    (h : d.tables.PointsKept d.engine) : r.2.tables.PointsKept r.2.engine := by
  have saved {p : GeoPoint} {d' : Directory}
      (s : Saved job.address job.source (job.metadata.getD []) d (.ok p, d')) :
      d'.tables.PointsKept d'.engine := by
    cases s with
    | onRecord p _ => exact h
    | added answer ls r _ _ made =>
      subst made
      exact h.insertPoint _
  cases linked with
  | refused e ls => exact h
  | loose p d' _ s => exact saved s
  | held m p _ _ _ => exact h
  | adopted m p d' _ s _ => exact (saved s).setPointMerchant p.id (some m)
  | reused m holder p q _ _ _ _ _ _ => exact h
  | copied m holder p recorded r _ _ _ _ _ _ _ made =>
    subst made
    exact h.insertPoint _

theorem Attainable.pointsKept {d : Directory} (reached : Attainable d) :
    d.tables.PointsKept d.engine :=
  reached.tables_keep (P := fun e t => t.PointsKept e) (fun _ _ h => nomatch h)
    (fun w h => w.pointsKept h) fun linked h => linked.pointsKept h

/-! ## Giving the point on record away -/

namespace Tables

variable {t : Tables} {address : String} {p : GeoPoint}

theorem record?_setPointMerchant_self (record : t.record? address = some p) (m : Option Int) :
    (t.setPointMerchant p.id m).record? address = some { p with merchant := m } := by
  have changed : Table.changed p.id (fun p => { p with merchant := m }) p =
      { p with merchant := m } := if_pos rfl
  rw [record?_setPointMerchant, record, Option.map_some, changed]

theorem record?_setPointMerchant_of_ne (record : t.record? address = some p) (m : Option Int)
    {other : String} (ne : other ≠ address) :
    (t.setPointMerchant p.id m).record? other = t.record? other := by
  rw [record?_setPointMerchant]
  cases hq : t.record? other with
  | none => rfl
  | some q =>
    obtain ⟨stored, here, _⟩ := mem_of_record? record
    obtain ⟨storedOther, there, _⟩ := mem_of_record? hq
    have row : key q ≠ p.id := by
      intro same
      have found := Table.get?_of_mem storedOther
      rw [same] at found
      obtain rfl : q = p := Option.some.inj (found.symm.trans (Table.get?_of_mem stored))
      exact ne (there.symm.trans here)
    rw [Option.map_some, Table.changed, if_neg row]

end Tables

/-- A point from which copies can be made. -/
structure GeoPoint.Copyable (e : Engine) (p : GeoPoint) : Prop where
  valid : p.draft.Valid
  kept : e.keptPoint p = p
  readable : ∃ members, p.metadataObject = .ok members

theorem GeoPoint.Copyable.heldBy {e : Engine} {p : GeoPoint} (h : p.Copyable e) (m : Option Int) :
    ({ p with merchant := m } : GeoPoint).Copyable e where
  valid := h.valid.heldBy m
  kept := congrArg (fun p : GeoPoint => { p with merchant := m }) h.kept
  readable := h.readable

end Gazetteer
