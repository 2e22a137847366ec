import Gazetteer.Proofs.Background
import Gazetteer.Proofs.Placements
import Gazetteer.Proofs.Replay

/-!
# What a failed attempt writes down

An attempt at geocoding a merchant that fails is counted and its reason is written down. The row is
written as a whole, so that nothing else in it is different rests on how rows are stored.

* `Tables.MerchantsKept`: merchants are stored in the form in which they are read back.
* `Tables.OnlyTried`: nothing but an attempt was written down, and points given to the merchant.
* `Merchants.geocode_failed`: nothing else comes of an attempt that fails.
-/

set_option autoImplicit false

namespace Gazetteer

/-! ## Merchants as they are stored -/

theorem Engine.keptMerchant_keptMerchant (e : Engine) (m : Merchant) :
    e.keptMerchant (e.keptMerchant m) = e.keptMerchant m := by
  have again : ∀ x : Option Float, (x.map e.keptFloat).map e.keptFloat = x.map e.keptFloat := by
    rintro (_ | x)
    · rfl
    · exact congrArg some (e.keptFloat_keptFloat x)
  simp only [keptMerchant, Merchant.row, again]

/-- Merchants are stored in the form in which they are read back. -/
def Tables.MerchantsKept (e : Engine) (t : Tables) : Prop :=
  ∀ m ∈ t.merchants.rows, e.keptMerchant m = m

theorem Write.merchantsKept {e : Engine} {who : Principal} {t t' : Tables}
    (w : Write e who t t') (h : t.MerchantsKept e) : t'.MerchantsKept e := by
  cases w with
  | addMerchant m _ own =>
    exact Table.forall_insert h (e.keptMerchant_keptMerchant (t.insertMerchant e m).1)
  | rewriteMerchant m _ before own =>
    refine Table.forall_modify h ?_
    intro old _
    cases e with
    | memory => exact Engine.keptMerchant_keptMerchant .memory m
    | sqlite =>
      exact congrArg (fun r : Merchant => { r with owner := old.owner, created := old.created })
        (Engine.keptMerchant_keptMerchant .sqlite m)
  | expel id _ own => exact Table.forall_keep h
  | favor id _ own =>
    rw [Tables.addFavorite_eq]
    exact h
  | _ => exact h

theorem Geocoding.Linked.merchantsKept {job : Job} {d : Directory}
    {r : Except Failure GeoPoint × Directory} (linked : Linked job d r)
    (h : d.tables.MerchantsKept d.engine) : r.2.tables.MerchantsKept r.2.engine := by
  rw [Tables.MerchantsKept, linked.engine, linked.merchants]
  exact h

theorem Attainable.merchantsKept {d : Directory} (reached : Attainable d) :
    d.tables.MerchantsKept d.engine :=
  reached.tables_keep (P := fun e t => t.MerchantsKept e) (fun _ _ h => nomatch h)
    (fun w h => w.merchantsKept h) fun linked h => linked.merchantsKept h

/-! ## One row written over -/

namespace Table

variable {α : Type} [Keyed α] {t : Table α} {i : Int}

theorem modify_congr {f g : α → α}
    (h : ∀ r, t.get? i = some r → withKey i (f r) = withKey i (g r)) :
    t.modify i f = t.modify i g := by
  refine ext_rows (List.map_congr_left ?_) rfl
  intro r hr
  rw [changed, changed]
  split
  · next hk => exact h r (hk ▸ get?_of_mem hr)
  · rfl

theorem modify_of_same {f : α → α} (h : ∀ r, t.get? i = some r → withKey i (f r) = r) :
    t.modify i f = t := by
  refine ext_rows ?_ rfl
  show t.rows.map (changed i f) = t.rows
  refine (List.map_congr_left ?_).trans t.rows.map_id
  intro r hr
  rw [changed]
  split
  · next hk => exact h r (hk ▸ get?_of_mem hr)
  · rfl

end Table

/-- The merchant with other attempts and another description of them. -/
def Merchant.noting (attempts : UInt32) (description : String) (m : Merchant) : Merchant :=
  { m with geocodeAttempts := attempts, geocodeDescription := description }

/-- A merchant that is written over with another attempt only is so in either engine. -/
theorem Engine.revisedMerchant_noting {e : Engine} {m : Merchant} (kept : e.keptMerchant m = m)
    (attempts : UInt32) (description : String) :
    e.revisedMerchant (m.noting attempts description) m = m.noting attempts description := by
  have noted : e.keptMerchant (m.noting attempts description) =
      (e.keptMerchant m).noting attempts description := rfl
  rw [kept] at noted
  cases e with
  | memory => exact noted
  | sqlite =>
    rw [revisedMerchant, noted]
    rfl

namespace Tables

/-- An attempt at geocoding a merchant was written down, and points may have been given to it. -/
structure OnlyTried (id : Int) (t t' : Tables) : Prop where
  merchants : ∃ attempts description,
    t'.merchants = t.merchants.modify id (Merchant.noting attempts description)
  tags : t'.tags = t.tags
  relations : t'.relations = t.relations
  favorites : t'.favorites = t.favorites
  /-- Other merchants hold the points that they held. -/
  held : ∀ m, m ≠ id → t'.pointsOf m = t.pointsOf m
  /-- A point that nobody holds was there before. -/
  free : ∀ p ∈ t'.points.rows, p.merchant = none → p ∈ t.points.rows

end Tables

namespace Geocoding

variable {d : Directory}

/-- A link for a merchant leaves no point behind that nobody holds. -/
theorem Linked.free {job : Job} {r : Except Failure GeoPoint × Directory} (h : Linked job d r)
    {m : Int} (target : job.merchant = some m) {p : GeoPoint} (hp : p ∈ r.2.tables.points.rows)
    (nobody : p.merchant = none) : p ∈ d.tables.points.rows := by
  cases h with
  | refused e ls => exact hp
  | loose q d' none _ => cases target.symm.trans none
  | held n q _ _ _ => exact hp
  | adopted n q d' _ saved _ =>
    obtain ⟨old, hold, hc⟩ := List.mem_map.1 hp
    rw [Table.changed] at hc
    split at hc
    · obtain rfl := hc
      cases nobody
    · next ne =>
      obtain rfl := hc
      cases saved with
      | onRecord _ _ => exact hold
      | added answer ls r _ _ made =>
        subst made
        obtain old | new := List.mem_append.1 hold
        · exact old
        · obtain rfl := List.mem_singleton.1 new
          exact absurd rfl ne
  | reused n holder q own _ _ _ _ _ _ => exact hp
  | copied n holder q recorded r _ _ _ _ _ _ _ made =>
    subst made
    obtain old | new := List.mem_append.1 hp
    · exact old
    · obtain rfl := List.mem_singleton.1 new
      cases nobody

/-- A link for a merchant is an attempt that was not written down yet. -/
theorem Linked.onlyTried {job : Job} {r : Except Failure GeoPoint × Directory}
    (h : Linked job d r) {id : Int} (target : job.merchant = some id) {m : Merchant}
    (stored : d.tables.merchants.get? id = some m) : d.tables.OnlyTried id r.2.tables := by
  have repoints := h.repoints
  refine ⟨⟨m.geocodeAttempts, m.geocodeDescription, ?_⟩, ?_, ?_, ?_, ?_, ?_⟩
  · rw [h.merchants, Table.modify_of_same]
    intro r found
    cases stored.symm.trans found
    obtain rfl := Table.key_of_get? stored
    rfl
  · rw [repoints]
  · rw [repoints]
  · rw [repoints]
  · intro m ne
    refine h.pointsOf_of_ne ?_
    rw [target]
    exact fun same => ne (Option.some.inj same).symm
  · intro p hp nobody
    exact h.free target hp nobody

end Geocoding

namespace Merchants

/-- The row of a merchant with a failed attempt is the stored one but for the attempt. -/
theorem updateMerchant_unresolved {engine : Engine} {t : Tables} {m : Merchant} {e : Failure}
    (kept : t.MerchantsKept engine) (stored : t.merchants.get? m.id = some m) :
    (t.updateMerchant engine (unresolved (tried m) e)).merchants =
      t.merchants.modify m.id
        (Merchant.noting (m.geocodeAttempts + 1) (shortened maxDescription e.message)) := by
  refine Table.modify_congr ?_
  intro r found
  cases stored.symm.trans found
  have same : engine.keptMerchant m = m := kept m (Table.mem_of_get? stored)
  exact congrArg (withKey m.id) (Engine.revisedMerchant_noting same _ _)

/-- An attempt at geocoding that fails announces nothing and submits nothing. It leaves the tables as
they are, or nothing but the attempt is written down. -/
theorem geocode_failed {chain : Option (List Provider)} {who : Principal} {id : Int}
    {d d' : Directory} {e : Failure} (kept : d.tables.MerchantsKept d.engine)
    (h : geocode chain who id d = (.error e, d')) :
    d'.events = d.events ∧ d'.queue = d.queue ∧
      (d'.tables = d.tables ∨ d.tables.OnlyTried id d'.tables) := by
  have done := geocode_geocoded chain who id d
  rw [h] at done
  cases done with
  | refused e => exact ⟨rfl, rfl, .inl rfl⟩
  | unplaced m e x d₁ owned linked =>
    obtain ⟨stored, _⟩ := ownedIn_eq_ok owned
    obtain rfl := id_of_ownedIn owned
    have before := linked.onlyTried rfl stored
    have written : (d₁.tables.updateMerchant d₁.engine (unresolved (tried m) e)).merchants =
        d.tables.merchants.modify m.id
          (Merchant.noting (m.geocodeAttempts + 1) (shortened maxDescription e.message)) := by
      rw [← updateMerchant_unresolved kept stored, Tables.updateMerchant, Tables.updateMerchant,
        ← linked.engine, ← linked.merchants]
    exact ⟨linked.events, linked.queue, .inr ⟨⟨_, _, written⟩, before.tags, before.relations,
      before.favorites, before.held, before.free⟩⟩
  | crashed m x d₁ owned linked =>
    obtain ⟨stored, _⟩ := ownedIn_eq_ok owned
    obtain rfl := id_of_ownedIn owned
    exact ⟨linked.events, linked.queue, .inr (linked.onlyTried rfl stored)⟩

end Merchants

end Gazetteer
