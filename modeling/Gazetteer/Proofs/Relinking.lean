import Gazetteer.Proofs.Deletion
import Gazetteer.Proofs.Placements
import Gazetteer.Proofs.ReadBack

/-!
# Linking an address again

A link looks at the first point on record for its address and source, whoever holds that one; the
point of the merchant itself is looked for among the points that the merchant holds. Once an address
was linked, somebody holds the point on record and the merchant has a point of its own, so the same
link finds that point again and asks nobody.

* `Tables.ownPoint?`: the point of a merchant for an address and a source.
* `Tables.Resolved`: a link would find the merchant's own point and write nothing.
* `Geocoding.Given`: how a merchant comes by a point.
* `Given.resolved`: afterwards a link finds that point.
* `link_idempotent`: a link that succeeded, what it did, and the same link again.
* `link_beside_own`: a link for a merchant that has a point there already.
-/

set_option autoImplicit false

namespace Gazetteer

/-! ## The merchant's own point -/

namespace Tables

variable {e : Engine} {t : Tables} {m : Int} {address source : String} {p q : GeoPoint}

/-- The first point for an address and a source among those that a merchant holds. -/
def ownPoint? (merchant : Int) (address source : String) (t : Tables) : Option GeoPoint :=
  (t.pointsOf merchant).find? fun p => p.address == address && p.source == source

/-- Somebody holds the point on record for the address and the source, and the merchant has the
given point there. -/
structure Resolved (m : Int) (address source : String) (q : GeoPoint) (t : Tables) : Prop where
  taken : ∃ p holder, t.pointFor? address source = some p ∧ p.merchant = some holder
  own : t.ownPoint? m address source = some q

theorem ownPoint?_eq_none :
    t.ownPoint? m address source = none ↔
      ∀ q ∈ t.pointsOf m, ¬(q.address = address ∧ q.source = source) := by
  simp [ownPoint?]

/-- A merchant that holds the point on record has that one. -/
theorem ownPoint?_of_pointFor? (record : t.pointFor? address source = some p)
    (held : p.merchant = some m) : t.ownPoint? m address source = some p := by
  obtain ⟨here, before, after, rows, others⟩ := List.find?_eq_some_iff_append.1 record
  rw [ownPoint?, pointsOf, List.find?_filter]
  refine List.find?_eq_some_iff_append.2 ⟨?_, before, after, rows, ?_⟩
  · simpa [held] using here
  · intro q hq
    have elsewhere := others q hq
    simp only [Bool.not_eq_true'] at elsewhere ⊢
    simp [elsewhere]

/-- A merchant without a point there has the one that it is given. -/
theorem ownPoint?_insertPoint (none : t.ownPoint? m address source = none)
    (held : p.merchant = some m) (here : p.address = address ∧ p.source = source) :
    (t.insertPoint e p).2.ownPoint? m address source =
      some (e.keptPoint (t.insertPoint e p).1) := by
  have added : (t.insertPoint e p).2.pointsOf m =
      t.pointsOf m ++ [e.keptPoint (t.insertPoint e p).1] := by
    show (t.points.rows ++ [e.keptPoint (t.insertPoint e p).1]).filter _ = _
    rw [List.filter_append]
    exact congrArg _ (List.filter_cons_of_pos (decide_eq_true held))
  rw [ownPoint?] at none
  rw [ownPoint?, added, List.find?_append, none, Option.none_or, List.find?_singleton, if_pos]
  show (p.address == address && p.source == source) = true
  simp [here]

namespace Resolved

theorem of_held (record : t.pointFor? address source = some p) (held : p.merchant = some m) :
    t.Resolved m address source p :=
  ⟨⟨p, m, record, held⟩, ownPoint?_of_pointFor? record held⟩

theorem stored (h : t.Resolved m address source q) :
    q ∈ t.points.rows ∧ q.merchant = some m ∧ q.address = address ∧ q.source = source := by
  obtain ⟨held, key⟩ := GeoPoint.of_find? h.own
  obtain ⟨stored, holder⟩ := mem_pointsOf.1 held
  exact ⟨stored, holder, key⟩

theorem of_points {t' : Tables} (same : t'.points = t.points)
    (h : t.Resolved m address source q) : t'.Resolved m address source q := by
  obtain ⟨taken, own⟩ := h
  refine ⟨?_, ?_⟩
  · simpa only [pointFor?, same] using taken
  · simpa only [ownPoint?, pointsOf, same] using own

end Resolved

end Tables

namespace Geocoding

variable {chain : List Provider} {job : Job} {m : Int} {d d' : Directory} {q : GeoPoint}

/-- Nobody is asked and nothing is written where the merchant's own point is found. -/
theorem link_of_resolved (chain : List Provider) (target : job.merchant = some m)
    (shown : Text.isBlankText job.address = false)
    (h : d.tables.Resolved m job.address job.source q) : link chain job d = (.ok q, d) := by
  obtain ⟨p, holder, record, held⟩ := h.taken
  have saved := save_of_pointFor chain job.metadata shown record
  by_cases same : holder = m
  · subst same
    have own := Tables.ownPoint?_of_pointFor? record held
    obtain rfl : p = q := Option.some.inj (own.symm.trans h.own)
    exact link_of_own target saved held
  · obtain ⟨_, address, source⟩ := Tables.pointFor?_some record
    refine link_of_reused target saved held same ?_
    rw [address, source]
    exact h.own

theorem shown_of_link (h : link chain job d = (.ok q, d')) :
    Text.isBlankText job.address = false := by
  by_contra blank
  rw [Bool.not_eq_false] at blank
  cases (link_of_error job (save_of_blank job.metadata blank)).symm.trans h

/-! ## How a merchant comes by a point -/

/-- What a link that succeeds does for a merchant: it finds the merchant's own point; the point on
record is held by nobody, maybe a new one, and goes to the merchant; or another merchant holds it,
and the merchant is given a copy. -/
inductive Given (job : Job) (m : Int) (d : Directory) : GeoPoint → Directory → Prop
  | own (q : GeoPoint) (h : d.tables.Resolved m job.address job.source q) : Given job m d q d
  | adopted (p : GeoPoint) (d₁ : Directory)
    (saved : Saved job.address job.source (job.metadata.getD []) d (.ok p, d₁))
    (free : p.merchant = none) :
    Given job m d { p with merchant := some m }
      { d₁ with tables := d₁.tables.setPointMerchant p.id (some m) }
  | copied (p : GeoPoint) (holder : Int) (recorded : Json.Object) (r : GeoPoint × Tables)
    (record : d.tables.pointFor? job.address job.source = some p)
    (held : p.merchant = some holder) (other : holder ≠ m)
    (none : d.tables.ownPoint? m job.address job.source = none)
    (origin : p.metadataObject = .ok recorded)
    (made : r = d.tables.insertPoint d.engine
      ((copyDraft p m (withOriginOf recorded (job.metadata.getD []))).toPoint d.now)) :
    Given job m d r.1 { d with tables := r.2 }

theorem given_of_link (target : job.merchant = some m) (h : link chain job d = (.ok q, d')) :
    Given job m d q d' := by
  have linked := link_linked chain job d
  rw [h] at linked
  cases linked with
  | loose p d' nobody saved => cases nobody.symm.trans target
  | held n p hm record holder =>
    cases hm.symm.trans target
    exact .own _ (.of_held record holder)
  | adopted n p d' hm saved free =>
    cases hm.symm.trans target
    exact .adopted p d' saved free
  | reused n holder p q hm record other ne own same =>
    cases hm.symm.trans target
    obtain ⟨_, address, source⟩ := Tables.pointFor?_some record
    cases first : d.tables.ownPoint? m job.address job.source with
    | none =>
      have key := And.intro (same.1.trans address) (same.2.trans source)
      exact absurd key (Tables.ownPoint?_eq_none.1 first q own)
    | some q' =>
      -- of several points there the link gives the first
      have resolved : d.tables.Resolved m job.address job.source q' :=
        ⟨⟨p, holder, record, other⟩, first⟩
      cases (link_of_resolved chain target (shown_of_link h) resolved).symm.trans h
      exact .own q resolved
  | copied n holder p recorded r hm record other ne none origin valid made =>
    cases hm.symm.trans target
    obtain ⟨_, address, source⟩ := Tables.pointFor?_some record
    rw [address, source] at none
    have pointless := Tables.ownPoint?_eq_none.2 none
    exact .copied p holder recorded r record other ne pointless origin made

/-- After it was saved, the point is on record. -/
theorem Saved.record {address source : String} {metadata : Json.Object} {p : GeoPoint}
    (saved : Saved address source metadata d (.ok p, d'))
    (kept : d.tables.PointsKept d.engine) :
    d'.tables.pointFor? address source = some (d.engine.keptPoint p) := by
  cases saved with
  | onRecord _ record =>
    rw [kept p (Tables.pointFor?_some record).1]
    exact record
  | added answer ls r new _ made =>
    subst made
    show (d.tables.insertPoint d.engine _).2.pointFor? address source = _
    rw [Tables.pointFor?_insertPoint, new]
    exact if_pos ⟨rfl, rfl⟩

namespace Given

/-- A link finds again what it gave. -/
theorem resolved (given : Given job m d q d') (kept : d.tables.PointsKept d.engine) :
    d'.tables.Resolved m job.address job.source (d.engine.keptPoint q) := by
  cases given with
  | own _ h =>
    rw [kept q h.stored.1]
    exact h
  | adopted p d₁ saved free =>
    have record : (d₁.tables.setPointMerchant p.id (some m)).pointFor? job.address job.source =
        some (d.engine.keptPoint { p with merchant := some m }) := by
      rw [Tables.pointFor?_setPointMerchant, saved.record kept]
      exact congrArg some (if_pos rfl)
    exact .of_held record rfl
  | copied p holder recorded r record held other none origin made =>
    subst made
    obtain ⟨_, key⟩ := Tables.pointFor?_some record
    refine ⟨⟨p, holder, ?_, held⟩, Tables.ownPoint?_insertPoint none rfl key⟩
    show (d.tables.insertPoint d.engine _).2.pointFor? job.address job.source = _
    rw [Tables.pointFor?_insertPoint, record]
    rfl

/-- The points other than the one that is given stay as they are. -/
theorem get?_of_ne (given : Given job m d q d') {i : Int} (ne : i ≠ q.id) :
    d'.tables.points.get? i = d.tables.points.get? i := by
  cases given with
  | own _ _ => rfl
  | adopted p d₁ saved _ =>
    show (d₁.tables.points.modify p.id _).get? i = _
    rw [Table.get?_modify_of_ne ne]
    cases saved with
    | onRecord _ _ => rfl
    | added answer ls r _ _ made =>
      subst made
      exact (Table.get?_insert ..).trans (if_neg ne)
  | copied p holder recorded r _ _ _ _ _ made =>
    subst made
    exact (Table.get?_insert ..).trans (if_neg ne)

/-- A point that was there before it was given was nobody's or the merchant's, and nothing but its
holder is different. -/
theorem of_get? (given : Given job m d q d') (kept : d.tables.PointsKept d.engine) {old : GeoPoint}
    (stored : d.tables.points.get? q.id = some old) :
    (old.merchant = none ∨ old.merchant = some m) ∧
      d.engine.keptPoint q = { old with merchant := some m } := by
  have unused : d.tables.points.get? d.tables.points.next = none :=
    Table.get?_eq_none_of_last_lt (Int.lt_succ _)
  cases given with
  | own _ h =>
    obtain ⟨mem, holder, _⟩ := h.stored
    cases (Table.get?_of_mem mem).symm.trans stored
    exact ⟨.inr holder, by rw [kept q mem, ← holder]⟩
  | adopted p d₁ saved free =>
    cases saved with
    | onRecord _ record =>
      have mem := (Tables.pointFor?_some record).1
      cases (Table.get?_of_mem mem).symm.trans stored
      exact ⟨.inl free, congrArg (fun p : GeoPoint => { p with merchant := some m }) (kept _ mem)⟩
    | added answer ls r _ _ made =>
      subst made
      cases unused.symm.trans stored
  | copied p holder recorded r _ _ _ _ _ made =>
    subst made
    cases unused.symm.trans stored

/-- At most one point is added. -/
theorem length_le (given : Given job m d q d') :
    d'.tables.points.rows.length ≤ d.tables.points.rows.length + 1 := by
  cases given with
  | own _ _ => exact Nat.le_succ _
  | adopted p d₁ saved _ =>
    refine (List.length_map (Table.changed p.id _)).trans_le ?_
    cases saved with
    | onRecord _ _ => exact Nat.le_succ _
    | added answer ls r _ _ made =>
      subst made
      exact List.length_append.le
  | copied p holder recorded r _ _ _ _ _ made =>
    subst made
    exact List.length_append.le

/-- Nothing but points and the record of the lookups is different. -/
theorem frame (given : Given job m d q d') :
    d' = { d with lookups := d'.lookups, tables := { d.tables with points := d'.tables.points } } := by
  cases given with
  | own _ _ => rfl
  | adopted p d₁ saved _ =>
    cases saved with
    | onRecord _ _ => rfl
    | added answer ls r _ _ made =>
      subst made
      rfl
  | copied p holder recorded r _ _ _ _ _ made =>
    subst made
    rfl

end Given

/-! ## The same link again -/

/-- In a directory that calls and jobs have led to, a link for a merchant that succeeds leaves the
point that it answers with the merchant, stored for the address and the source of the job. The point
was nobody's or the merchant's if it was there before, and nothing but its holder is different. No
other point is different, and at most one is added. The same link again, at any moment and with any
providers, gives that point and leaves everything as it is. -/
theorem link_idempotent (reached : Attainable d) (moment : Timestamp)
    (target : job.merchant = some m)
    (h : link chain job { d with now := moment } = (.ok q, d')) :
    ∃ stored, stored.valued = q.valued ∧ d'.tables.points.get? q.id = some stored ∧
      stored.merchant = some m ∧ stored.address = job.address ∧ stored.source = job.source ∧
      (∀ old, d.tables.points.get? q.id = some old →
        (old.merchant = none ∨ old.merchant = some m) ∧ stored = { old with merchant := some m }) ∧
      (∀ i, i ≠ q.id → d'.tables.points.get? i = d.tables.points.get? i) ∧
      d'.tables.points.rows.length ≤ d.tables.points.rows.length + 1 ∧
      d' = { d with
        now := moment, lookups := d'.lookups,
        tables := { d.tables with points := d'.tables.points } } ∧
      ∀ (again : List Provider) (later : Timestamp),
        link again job { d' with now := later } = (.ok stored, { d' with now := later }) := by
  let now : Directory := { d with now := moment }
  have kept : now.tables.PointsKept now.engine := reached.pointsKept
  have given : Given job m now q d' := given_of_link target h
  have resolved := given.resolved kept
  obtain ⟨mem, holder, address, source⟩ := resolved.stored
  refine ⟨now.engine.keptPoint q, Tables.valued_keptPoint q, Table.get?_of_mem mem, holder, address,
    source, fun _ => given.of_get? kept, fun _ => given.get?_of_ne, given.length_le, given.frame, ?_⟩
  intro again later
  exact link_of_resolved (d := { d' with now := later }) again target (shown_of_link h) resolved

/-- The rival of a bakery holds the point on record for their address, and the bakery is given a copy
of it. Without any provider the bakery is given its copy again. -/
theorem bakery_linked_again :
    let ada : Principal := ⟨1, "ada"⟩
    let bob : Principal := ⟨2, "bob"⟩
    let chain := [Provider.fixed "map" [] fun a => .resolved ⟨116, 39, "house", 80, a, a, "map"⟩]
    let rival : MerchantFields := { MerchantFields.blank with title := "Rival" }
    let bakery : MerchantFields := { MerchantFields.blank with title := "Bakery" }
    let job (m : Int) : Job := ⟨some m, "Main Street 1", "merchant", none⟩
    let d := advance [.call ⟨bob, default, .merchants (.create ⟨rival, [], [], false⟩)⟩,
      .call ⟨ada, default, .merchants (.create ⟨bakery, [], [], false⟩)⟩,
      .call ⟨bob, default, .geocoding (.link chain (job 1))⟩] (.empty .sqlite default)
    ∃ q d' stored, link chain (job 2) { d with now := default } = (.ok q, d') ∧
      stored.valued = q.valued ∧ stored.merchant = some 2 ∧
      link [] (job 2) { d' with now := default } = (.ok stored, { d' with now := default }) := by
  intro ada bob chain rival bakery job d
  have linked : (link chain (job 2) { d with now := default }).1.isOk = true := by decide +kernel
  obtain ⟨q, answered⟩ := ok_of_isOk linked
  obtain ⟨stored, value, _, holder, _, _, _, _, _, _, again⟩ :=
    link_idempotent ⟨.sqlite, default, _, rfl⟩ default rfl (Prod.ext answered rfl)
  exact ⟨q, _, stored, Prod.ext answered rfl, value, holder, again [] default⟩

/-! ## A merchant that has a point there -/

/-- A merchant that has a point for the address and the source of a job is given a point without
anybody being asked. If the point on record is held by somebody, the merchant is given one of its
own and nothing is written. If nobody holds the point on record, the merchant is given that one
beside its own. -/
theorem link_beside_own (chain : List Provider) (moment : Timestamp)
    (target : job.merchant = some m) (shown : Text.isBlankText job.address = false) {o : GeoPoint}
    (own : o ∈ d.tables.pointsOf m)
    (here : o.address = job.address ∧ o.source = job.source) :
    ∃ p q d', d.tables.pointFor? job.address job.source = some p ∧
      link chain job { d with now := moment } = (.ok q, d') ∧
      q.merchant = some m ∧ q.address = job.address ∧ q.source = job.source ∧
      d'.lookups = d.lookups ∧
      (∀ holder, p.merchant = some holder →
        q ∈ d.tables.pointsOf m ∧ d' = { d with now := moment }) ∧
      (p.merchant = none → q = { p with merchant := some m } ∧
        d' = { d with
          now := moment, tables := d.tables.setPointMerchant p.id (some m) }) := by
  let now : Directory := { d with now := moment }
  cases record : now.tables.pointFor? job.address job.source with
  | none =>
    exact absurd here (Tables.pointFor?_eq_none_iff.1 record o (Tables.mem_pointsOf.1 own).1)
  | some p =>
    obtain ⟨_, address, source⟩ := Tables.pointFor?_some record
    cases held : p.merchant with
    | none =>
      have saved := save_of_pointFor chain job.metadata shown record
      refine ⟨p, _, _, rfl, link_of_free target saved held, rfl, address, source, rfl, ?_,
        fun _ => ⟨rfl, rfl⟩⟩
      intro holder some
      cases held.symm.trans some
    | some holder =>
      cases first : now.tables.ownPoint? m job.address job.source with
      | none => exact absurd here (Tables.ownPoint?_eq_none.1 first o own)
      | some q =>
        have resolved : now.tables.Resolved m job.address job.source q :=
          ⟨⟨p, holder, record, held⟩, first⟩
        obtain ⟨stored, mine, key⟩ := resolved.stored
        refine ⟨p, q, now, rfl, link_of_resolved chain target shown resolved, mine, key.1, key.2, rfl,
          fun _ _ => ⟨Tables.mem_pointsOf.2 ⟨stored, mine⟩, rfl⟩, ?_⟩
        intro free
        cases held.symm.trans free

/-- A bakery with a copy of the point of its rival. Linked without any provider, it is given a point
of its own and nothing is asked. -/
theorem bakery_beside_rival_linked :
    let ada : Principal := ⟨1, "ada"⟩
    let bob : Principal := ⟨2, "bob"⟩
    let chain := [Provider.fixed "map" [] fun a => .resolved ⟨116, 39, "house", 80, a, a, "map"⟩]
    let rival : MerchantFields := { MerchantFields.blank with title := "Rival" }
    let bakery : MerchantFields := { MerchantFields.blank with title := "Bakery" }
    let job (m : Int) : Job := ⟨some m, "Main Street 1", "merchant", none⟩
    let d := advance [.call ⟨bob, default, .merchants (.create ⟨rival, [], [], false⟩)⟩,
      .call ⟨ada, default, .merchants (.create ⟨bakery, [], [], false⟩)⟩,
      .call ⟨bob, default, .geocoding (.link chain (job 1))⟩,
      .call ⟨ada, default, .geocoding (.link chain (job 2))⟩] (.empty .sqlite default)
    ∃ q d', link [] (job 2) { d with now := default } = (.ok q, d') ∧ q.merchant = some 2 ∧
      d'.lookups = d.lookups := by
  intro ada bob chain rival bakery job d
  have own : (d.tables.pointsOf 2).map (fun p => (p.address, p.source)) =
      [("Main Street 1", "merchant")] := by decide +kernel
  obtain ⟨o, mine, key⟩ := List.mem_map.1 (own ▸ List.mem_singleton_self _)
  have target : (job 2).merchant = some 2 := rfl
  have shown : Text.isBlankText (job 2).address = false := by decide
  obtain ⟨_, q, d', _, linked, holder, _, _, asked, _⟩ :=
    link_beside_own [] default target shown mine (Prod.mk.inj key)
  exact ⟨q, d', linked, holder, asked⟩

/-- The rival gives up the point on record. The bakery, which has a copy of it, is given that one
too. -/
theorem bakery_adopts_beside_own :
    let ada : Principal := ⟨1, "ada"⟩
    let bob : Principal := ⟨2, "bob"⟩
    let chain := [Provider.fixed "map" [] fun a => .resolved ⟨116, 39, "house", 80, a, a, "map"⟩]
    let rival : MerchantFields := { MerchantFields.blank with title := "Rival" }
    let bakery : MerchantFields := { MerchantFields.blank with title := "Bakery" }
    let job (m : Int) : Job := ⟨some m, "Main Street 1", "merchant", none⟩
    let d := advance [.call ⟨bob, default, .merchants (.create ⟨rival, [], [], false⟩)⟩,
      .call ⟨ada, default, .merchants (.create ⟨bakery, [], [], false⟩)⟩,
      .call ⟨bob, default, .geocoding (.link chain (job 1))⟩,
      .call ⟨ada, default, .geocoding (.link chain (job 2))⟩,
      .call ⟨bob, default, .merchants (.update 1 ⟨rival, none, some [], none⟩)⟩]
      (.empty .memory default)
    (d.tables.pointsOf 2).map (fun p => (p.id, p.address, p.source)) =
        [(2, "Main Street 1", "merchant")] ∧
      (link chain (job 2) d).1.toOption.map GeoPoint.id = some 1 ∧
      ((link chain (job 2) d).2.tables.pointsOf 2).map GeoPoint.id = [1, 2] := by
  decide +kernel

end Geocoding

end Gazetteer
