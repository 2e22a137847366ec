import Gazetteer.Proofs.Decisions

/-!
# What geocoding does to a directory

The chain of providers is asked first, and nothing but the record of the lookups changes by it. What
is written afterwards is one of few things.

* `Saved`: what can come of `save`.
* `Linked`: what can come of `link`.
* `save_saved`, `link_linked`: nothing else comes of them.
* `save_of_pointFor`, `link_of_free`, ...: what comes of them where it is known who holds the point.
* `Geocoded`: what can come of geocoding a merchant on demand.
* `geocode_eq_ok`, `geocode_eq_error`: what a call did that ended in either way.
-/

set_option autoImplicit false

namespace Gazetteer

/-! ## Points of an address and a source -/

theorem GeoPoint.of_find? {ps : List GeoPoint} {address source : String} {p : GeoPoint}
    (h : ps.find? (fun q => q.address == address && q.source == source) = some p) :
    p ∈ ps ∧ p.address = address ∧ p.source = source := by
  have same := List.find?_some h
  simp only [Bool.and_eq_true, beq_iff_eq] at same
  exact ⟨List.mem_of_find?_eq_some h, same⟩

theorem Tables.pointFor?_some {t : Tables} {address source : String} {p : GeoPoint}
    (h : t.pointFor? address source = some p) :
    p ∈ t.points.rows ∧ p.address = address ∧ p.source = source :=
  GeoPoint.of_find? h

theorem Tables.pointFor?_eq_none_iff {t : Tables} {address source : String} :
    t.pointFor? address source = none ↔
      ∀ p ∈ t.points.rows, ¬(p.address = address ∧ p.source = source) := by
  simp [pointFor?]

namespace Geocoding

/-! ## Asking -/

theorem askInOrder_asks (address : String) (last : Option (String × LookupFailure))
    (chain : List Provider) (d : Directory) :
    ∃ r ls, askInOrder address last chain d = (r, { d with lookups := ls }) := by
  induction chain generalizing last d with
  | nil => exact ⟨_, d.lookups, rfl⟩
  | cons p rest ih =>
    rw [askInOrder, Action.bind_apply, ask]
    cases (p.answer d.lookups address).outcome with
    | resolved r => exact ⟨_, _, rfl⟩
    | failed e => exact ih (some (p.name, e)) _
    | crashed => exact ⟨_, _, rfl⟩

theorem resolve_asks (chain : List Provider) (address : String) (d : Directory) :
    ∃ r ls, resolve chain address d = (r, { d with lookups := ls }) := by
  rw [resolve, Action.bind_apply, Action.ofExcept_apply]
  cases requireAddress address with
  | error e => exact ⟨_, d.lookups, rfl⟩
  | ok _ => exact askInOrder_asks address none chain d

/-- A search by distance looks and does not write. -/
theorem nearby_looks (longitude latitude radius : Float) (limit : Nat) (d : Directory) :
    ∃ r, nearby longitude latitude radius limit d = (r, d) := by
  simp only [nearby, Action.bind_apply, Action.ofExcept_apply]
  cases requireLongitude longitude with
  | error e => exact ⟨_, rfl⟩
  | ok _ =>
    cases requireLatitude latitude with
    | error e => exact ⟨_, rfl⟩
    | ok _ => cases requireRadius radius <;> exact ⟨_, rfl⟩

/-! ## The point on record, or a new one -/

theorem addPoint_eq (draft : GeoPointDraft) :
    addPoint draft = .guarded (fun _ => draft.check) fun _ d =>
      let r := d.tables.insertPoint d.engine (draft.toPoint d.now)
      (r.1, { d with tables := r.2 }) := by
  funext d
  rw [Action.guarded, addPoint, Action.bind_apply, Action.ofExcept_apply]
  cases draft.check <;> rfl

theorem addPoint_cases (draft : GeoPointDraft) (d : Directory) :
    (∃ e, addPoint draft d = (.error e, d)) ∨
    (draft.check = .ok () ∧
      addPoint draft d = (.ok (d.tables.insertPoint d.engine (draft.toPoint d.now)).1,
        { d with tables := (d.tables.insertPoint d.engine (draft.toPoint d.now)).2 })) := by
  rw [addPoint_eq]
  obtain ⟨e, _, h⟩ | ⟨_, valid, h⟩ := Action.guarded_cases (fun _ => draft.check) (fun _ d =>
    ((d.tables.insertPoint d.engine (draft.toPoint d.now)).1,
      { d with tables := (d.tables.insertPoint d.engine (draft.toPoint d.now)).2 })) d
  · exact .inl ⟨e, h⟩
  · exact .inr ⟨valid, h⟩

theorem addPoint_lookups (draft : GeoPointDraft) (d : Directory) :
    (addPoint draft d).2.lookups = d.lookups := by
  obtain ⟨e, h⟩ | ⟨_, h⟩ := addPoint_cases draft d <;> rw [h]

/-- What can come of saving an address: it is refused, the point on record is given, or a new point
is added that no merchant holds. -/
inductive Saved (address source : String) (metadata : Json.Object) (d : Directory) :
    Except Failure GeoPoint × Directory → Prop
  | refused (e : Failure) (ls : List Lookup) :
    Saved address source metadata d (.error e, { d with lookups := ls })
  | onRecord (p : GeoPoint) (h : d.tables.pointFor? address source = some p) :
    Saved address source metadata d (.ok p, d)
  | added (answer : GeocodeResult) (ls : List Lookup) (r : GeoPoint × Tables)
    (new : d.tables.pointFor? address source = none)
    (valid : (resolvedDraft answer address source metadata).check = .ok ())
    (h : r = d.tables.insertPoint d.engine
      ((resolvedDraft answer address source metadata).toPoint d.now)) :
    Saved address source metadata d (.ok r.1, { d with lookups := ls, tables := r.2 })

theorem save_saved (chain : List Provider) (address source : String)
    (metadata : Option Json.Object) (d : Directory) :
    Saved address source (metadata.getD []) d (save chain address source metadata d) := by
  rw [save, Action.bind_apply, Action.ofExcept_apply]
  cases requireAddress address with
  | error e => exact .refused e d.lookups
  | ok _ =>
    simp only [Action.bind_apply, Action.read_apply]
    cases hp : d.tables.pointFor? address source with
    | some p => exact .onRecord p hp
    | none =>
      obtain ⟨r, ls, hr⟩ := resolve_asks chain address d
      simp only [Action.bind_apply, hr]
      cases r with
      | error e => exact .refused e ls
      | ok answer =>
        obtain ⟨e, h⟩ | ⟨valid, h⟩ := addPoint_cases
          (resolvedDraft answer address source (metadata.getD [])) { d with lookups := ls }
        · simp only [h]
          exact .refused e ls
        · simp only [h]
          exact .added answer ls _ hp valid rfl

/-! ## The point of a merchant -/

/-- What can come of linking an address: it is refused; or there is no merchant to link it to; or
the merchant holds the point already, is given a point that nobody holds, has a point of its own for
the address of a point of somebody else, or is given a copy of that one. -/
inductive Linked (job : Job) (d : Directory) : Except Failure GeoPoint × Directory → Prop
  | refused (e : Failure) (ls : List Lookup) : Linked job d (.error e, { d with lookups := ls })
  | loose (p : GeoPoint) (d' : Directory) (nobody : job.merchant = none)
    (saved : Saved job.address job.source (job.metadata.getD []) d (.ok p, d')) :
    Linked job d (.ok p, d')
  | held (m : Int) (p : GeoPoint) (hm : job.merchant = some m)
    (record : d.tables.pointFor? job.address job.source = some p) (holder : p.merchant = some m) :
    Linked job d (.ok p, d)
  | adopted (m : Int) (p : GeoPoint) (d' : Directory) (hm : job.merchant = some m)
    (saved : Saved job.address job.source (job.metadata.getD []) d (.ok p, d'))
    (free : p.merchant = none) :
    Linked job d (.ok { p with merchant := some m },
      { d' with tables := d'.tables.setPointMerchant p.id (some m) })
  | reused (m holder : Int) (p q : GeoPoint) (hm : job.merchant = some m)
    (record : d.tables.pointFor? job.address job.source = some p)
    (other : p.merchant = some holder) (ne : holder ≠ m) (own : q ∈ d.tables.pointsOf m)
    (same : q.address = p.address ∧ q.source = p.source) :
    Linked job d (.ok q, d)
  | copied (m holder : Int) (p : GeoPoint) (recorded : Json.Object) (r : GeoPoint × Tables)
    (hm : job.merchant = some m) (record : d.tables.pointFor? job.address job.source = some p)
    (other : p.merchant = some holder) (ne : holder ≠ m)
    (none : ∀ q ∈ d.tables.pointsOf m, ¬(q.address = p.address ∧ q.source = p.source))
    (origin : p.metadataObject = .ok recorded)
    (valid : (copyDraft p m (withOriginOf recorded (job.metadata.getD []))).check = .ok ())
    (h : r = d.tables.insertPoint d.engine
      ((copyDraft p m (withOriginOf recorded (job.metadata.getD []))).toPoint d.now)) :
    Linked job d (.ok r.1, { d with tables := r.2 })

/-- A point that was added by saving is held by nobody, so a point that somebody holds was on record
and nothing was written. -/
theorem Saved.onRecord_of_holder {address source : String} {metadata : Json.Object}
    {d d' : Directory} {p : GeoPoint} {holder : Int}
    (h : Saved address source metadata d (.ok p, d')) (hp : p.merchant = some holder) :
    d.tables.pointFor? address source = some p ∧ d' = d := by
  cases h with
  | onRecord _ h => exact ⟨h, rfl⟩
  | added answer ls r _ _ h =>
    rw [h] at hp
    cases hp

theorem copyFor_of_own {m : Int} {metadata : Option Json.Object} {p q : GeoPoint} {d : Directory}
    (own : (d.tables.pointsOf m).find?
      (fun q => q.address == p.address && q.source == p.source) = some q) :
    copyFor m metadata p d = (.ok q, d) := by
  simp only [copyFor, Action.bind_apply, Action.read_apply, own]
  rfl

/-- A merchant without a point there gets a new one, if the metadata of the other point read. -/
theorem copyFor_of_missing {m : Int} {metadata : Option Json.Object} {p : GeoPoint} {d : Directory}
    (missing : (d.tables.pointsOf m).find?
      (fun q => q.address == p.address && q.source == p.source) = none) :
    copyFor m metadata p d =
      match p.metadataObject with
      | .ok recorded => addPoint (copyDraft p m (withOriginOf recorded (metadata.getD []))) d
      | .error e => (.error e, d) := by
  simp only [copyFor, Action.bind_apply, Action.read_apply, missing, Action.ofExcept_apply]
  cases p.metadataObject <;> rfl

theorem copyFor_linked {job : Job} {d : Directory} {m holder : Int} {p : GeoPoint}
    (hm : job.merchant = some m) (record : d.tables.pointFor? job.address job.source = some p)
    (other : p.merchant = some holder) (ne : holder ≠ m) :
    Linked job d (copyFor m job.metadata p d) := by
  cases hq : (d.tables.pointsOf m).find?
    fun q => q.address == p.address && q.source == p.source with
  | some q =>
    rw [copyFor_of_own hq]
    obtain ⟨own, same⟩ := GeoPoint.of_find? hq
    exact .reused m holder p q hm record other ne own same
  | none =>
    rw [copyFor_of_missing hq]
    cases ho : p.metadataObject with
    | error e => exact .refused e d.lookups
    | ok recorded =>
      have none : ∀ q ∈ d.tables.pointsOf m, ¬(q.address = p.address ∧ q.source = p.source) := by
        simpa using hq
      obtain ⟨e, h⟩ | ⟨valid, h⟩ :=
        addPoint_cases (copyDraft p m (withOriginOf recorded (job.metadata.getD []))) d
      · simp only [h]
        exact .refused e d.lookups
      · simp only [h]
        exact .copied m holder p recorded _ hm record other ne none ho valid rfl

theorem link_linked (chain : List Provider) (job : Job) (d : Directory) :
    Linked job d (link chain job d) := by
  have hs := save_saved chain job.address job.source job.metadata d
  rw [link, Action.bind_apply]
  cases hr : save chain job.address job.source job.metadata d with
  | mk r d' =>
    rw [hr] at hs
    cases r with
    | error e =>
      cases hs
      exact .refused e _
    | ok p =>
      cases hm : job.merchant with
      | none => exact .loose p d' hm hs
      | some m =>
        cases hp : p.merchant with
        | none =>
          simp only [hp]
          exact .adopted m p d' hm hs hp
        | some holder =>
          obtain ⟨record, rfl⟩ := hs.onRecord_of_holder hp
          simp only [hp]
          by_cases ne : holder = m
          · simp only [if_pos ne]
            exact .held m p hm record (ne ▸ hp)
          · simp only [if_neg ne]
            exact copyFor_linked hm record hp ne

/-! ## What the steps of a link come to -/

section

variable {chain : List Provider} {d d' : Directory} {address source : String}

theorem requireAddress_of_shown (shown : Text.isBlankText address = false) :
    requireAddress address = .ok () := by
  simp [requireAddress, shown]

theorem resolve_of_blank (blank : Text.isBlankText address = true) :
    resolve chain address d = (.error (.lookup .emptyAddress), d) := by
  simp [resolve, Action.bind_apply, requireAddress, blank]

theorem resolve_of_shown (chain : List Provider) (d : Directory)
    (shown : Text.isBlankText address = false) :
    resolve chain address d = askInOrder address none chain d := by
  rw [resolve, Action.bind_apply, Action.ofExcept_apply, requireAddress_of_shown shown]

theorem save_of_blank (metadata : Option Json.Object) (blank : Text.isBlankText address = true) :
    save chain address source metadata d = (.error (.lookup .emptyAddress), d) := by
  simp [save, Action.bind_apply, requireAddress, blank]

/-- A point on record is given as it is. -/
theorem save_of_pointFor (chain : List Provider) {p : GeoPoint} (metadata : Option Json.Object)
    (shown : Text.isBlankText address = false)
    (record : d.tables.pointFor? address source = some p) :
    save chain address source metadata d = (.ok p, d) := by
  simp [save, Action.bind_apply, requireAddress, shown, record]

/-- Saving an address that nothing is on record for asks whom resolving it asks, and what is
resolved is the end of it, even if it cannot be saved. -/
theorem save_of_new (chain : List Provider) (metadata : Option Json.Object)
    (shown : Text.isBlankText address = false)
    (new : d.tables.pointFor? address source = none) :
    save chain address source metadata d =
      (resolve chain address >>= fun answer =>
        addPoint (resolvedDraft answer address source (metadata.getD []))) d := by
  simp only [save, Action.bind_apply, Action.ofExcept_apply, requireAddress_of_shown shown,
    Action.read_apply, new]

/-- What the chain resolves is stored when nothing is on record. -/
theorem save_of_resolved {answer : GeocodeResult} (metadata : Option Json.Object)
    (shown : Text.isBlankText address = false)
    (new : d.tables.pointFor? address source = none)
    (resolved : (resolve chain address d).1 = .ok answer)
    (checked : (resolvedDraft answer address source (metadata.getD [])).check = .ok ()) :
    ∃ ls,
      let draft := resolvedDraft answer address source (metadata.getD [])
      let r := d.tables.insertPoint d.engine (draft.toPoint d.now)
      save chain address source metadata d =
        (.ok r.1, { d with lookups := ls, tables := r.2 }) := by
  obtain ⟨r, ls, asked⟩ := resolve_asks chain address d
  obtain rfl : r = .ok answer := by rw [← resolved, asked]
  refine ⟨ls, ?_⟩
  rw [save_of_new chain metadata shown new, Action.bind_of_ok asked, addPoint_eq,
    Action.guarded_of_ok checked]

variable {job : Job} {m holder : Int} {p : GeoPoint}

theorem link_of_error (job : Job) {e : Failure}
    (h : save chain job.address job.source job.metadata d = (.error e, d')) :
    link chain job d = (.error e, d') := by
  rw [link, Action.bind_of_error h]

/-- A point that nobody holds goes to the merchant. -/
theorem link_of_free (hm : job.merchant = some m)
    (h : save chain job.address job.source job.metadata d = (.ok p, d'))
    (free : p.merchant = none) :
    link chain job d = (.ok { p with merchant := some m },
      { d' with tables := d'.tables.setPointMerchant p.id (some m) }) := by
  rw [link, Action.bind_of_ok h, hm, free]
  rfl

/-- A point of the merchant is given as it is. -/
theorem link_of_own (hm : job.merchant = some m)
    (h : save chain job.address job.source job.metadata d = (.ok p, d'))
    (own : p.merchant = some m) : link chain job d = (.ok p, d') := by
  rw [link, Action.bind_of_ok h, hm, own]
  simp

/-- In place of a point of another merchant, the merchant's own point there is given. -/
theorem link_of_reused {q : GeoPoint} (hm : job.merchant = some m)
    (h : save chain job.address job.source job.metadata d = (.ok p, d))
    (held : p.merchant = some holder) (other : holder ≠ m)
    (own : (d.tables.pointsOf m).find?
      (fun q => q.address == p.address && q.source == p.source) = some q) :
    link chain job d = (.ok q, d) := by
  rw [link, Action.bind_of_ok h, hm, held]
  simp only [if_neg other, copyFor_of_own own]

/-- A merchant that has no point there gets a copy of the point of another one. -/
theorem link_of_copied {recorded : Json.Object} (hm : job.merchant = some m)
    (h : save chain job.address job.source job.metadata d = (.ok p, d))
    (held : p.merchant = some holder) (other : holder ≠ m)
    (none : (d.tables.pointsOf m).find?
      (fun q => q.address == p.address && q.source == p.source) = none)
    (origin : p.metadataObject = .ok recorded)
    (checked : (copyDraft p m (withOriginOf recorded (job.metadata.getD []))).check = .ok ()) :
    let draft := copyDraft p m (withOriginOf recorded (job.metadata.getD []))
    let r := d.tables.insertPoint d.engine (draft.toPoint d.now)
    link chain job d = (.ok r.1, { d with tables := r.2 }) := by
  intro draft r
  rw [link, Action.bind_of_ok h, hm, held]
  simp only [if_neg other, copyFor_of_missing none, origin]
  rw [addPoint_eq, Action.guarded_of_ok checked]

end

end Geocoding

/-! ## Geocoding on demand -/

namespace Merchants

open Geocoding (Linked link_linked)

/-- One more attempt at geocoding. -/
def tried (m : Merchant) : Merchant := { m with geocodeAttempts := m.geocodeAttempts + 1 }

/-- What can come of geocoding a merchant of the caller: it is refused before anybody is asked; or
its address is linked, and then its place or the reason why there is none is written down, or a
provider crashed. -/
inductive Geocoded (who : Principal) (id : Int) (d : Directory) :
    Except Failure Merchant × Directory → Prop
  | refused (e : Failure) : Geocoded who id d (.error e, d)
  | placed (m : Merchant) (p : GeoPoint) (origin : Metadata) (d' : Directory)
    (owned : ownedIn who id d.tables = .ok m)
    (linked : Linked (job id m.address) d (.ok p, d')) :
    Geocoded who id d
      (.ok (d'.announcing .merchantUpdated who (placedAt (tried m) p origin)
        (d'.tables.updateMerchant d'.engine (placedAt (tried m) p origin))).1,
      (d'.announcing .merchantUpdated who (placedAt (tried m) p origin)
        (d'.tables.updateMerchant d'.engine (placedAt (tried m) p origin))).2)
  | unplaced (m : Merchant) (e : Failure) (x : Except Failure GeoPoint) (d' : Directory)
    (owned : ownedIn who id d.tables = .ok m) (linked : Linked (job id m.address) d (x, d')) :
    Geocoded who id d (.error e,
      { d' with tables := d'.tables.updateMerchant d'.engine (unresolved (tried m) e) })
  | crashed (m : Merchant) (x : Except Failure GeoPoint) (d' : Directory)
    (owned : ownedIn who id d.tables = .ok m) (linked : Linked (job id m.address) d (x, d')) :
    Geocoded who id d (.error .crash, d')

theorem locate_snd (chain : List Provider) (id : Int) (address : String) (d : Directory) :
    (locate chain id address d).2 = (Geocoding.link chain (job id address) d).2 := by
  rw [locate, Action.bind_apply]
  cases Geocoding.link chain (job id address) d with
  | mk r d' =>
    cases r with
    | error e => rfl
    | ok p =>
      simp only [Action.bind_apply, Action.ofExcept_apply]
      cases p.typedMetadata <;> rfl

/-- What was located is the point of the link, whose metadata read; otherwise the link failed, or the
metadata do not read. -/
theorem locate_cases (chain : List Provider) (id : Int) (address : String) (d : Directory) :
    (∃ p origin d', Geocoding.link chain (job id address) d = (.ok p, d') ∧
      p.typedMetadata = .ok origin ∧ locate chain id address d = (.ok (p, origin), d')) ∨
    ∃ e x d', Geocoding.link chain (job id address) d = (x, d') ∧
      (x = .error e ∨ ∃ p, x = .ok p ∧ p.typedMetadata = .error e) ∧
      locate chain id address d = (.error e, d') := by
  rw [locate, Action.bind_apply]
  cases hl : Geocoding.link chain (job id address) d with
  | mk x d' =>
    cases x with
    | error e => exact .inr ⟨e, _, d', rfl, .inl rfl, rfl⟩
    | ok p =>
      simp only [Action.bind_apply, Action.ofExcept_apply]
      cases typed : p.typedMetadata with
      | error e => exact .inr ⟨e, _, d', rfl, .inr ⟨p, rfl, typed⟩, rfl⟩
      | ok origin => exact .inl ⟨p, origin, d', rfl, typed, rfl⟩

theorem locate_of_link {chain : List Provider} {id : Int} {address : String} {d d' : Directory}
    {p : GeoPoint} {origin : Metadata}
    (linked : Geocoding.link chain (job id address) d = (.ok p, d'))
    (typed : p.typedMetadata = .ok origin) :
    locate chain id address d = (.ok (p, origin), d') := by
  rw [locate, Action.bind_of_ok linked, Action.bind_apply, Action.ofExcept_apply, typed]
  rfl

/-- A merchant with an address is located, and what comes of that is written down. -/
theorem geocode_of_owned {chain : List Provider} {who : Principal} {id : Int} {d : Directory}
    {m : Merchant} (own : ownedIn who id d.tables = .ok m)
    (shown : Text.isBlankText m.address = false) :
    geocode (some chain) who id d =
      match locate chain id m.address d with
      | (.ok (p, origin), d') =>
        let placed := placedAt (tried m) p origin
        let after := d'.announcing .merchantUpdated who placed
          (d'.tables.updateMerchant d'.engine placed)
        (.ok after.1, after.2)
      | (.error .crash, d') => (.error .crash, d')
      | (.error e, d') =>
        (.error e,
          { d' with tables := d'.tables.updateMerchant d'.engine (unresolved (tried m) e) }) := by
  have there : require (!Text.isBlankText m.address) .noAddress = .ok () := by
    rw [shown]
    rfl
  simp only [geocode, Action.bind_apply, owned, Action.check_apply, own, Action.ofExcept_apply,
    there, Action.attempt_apply]
  cases locate chain id m.address d with
  | mk x d' =>
    cases x with
    | ok found => rfl
    | error e => cases e <;> rfl

/-- A call is refused before anybody is asked, or its merchant is one of the caller with an address. -/
theorem geocode_cases (chain : Option (List Provider)) (who : Principal) (id : Int)
    (d : Directory) :
    (∃ e, geocode chain who id d = (.error e, d)) ∨
    ∃ asked m, chain = some asked ∧ ownedIn who id d.tables = .ok m ∧
      Text.isBlankText m.address = false := by
  cases chain with
  | none => exact .inl ⟨_, rfl⟩
  | some chain =>
    cases own : ownedIn who id d.tables with
    | error e =>
      simp only [geocode, Action.bind_apply, owned, Action.check_apply, own]
      exact .inl ⟨e, rfl⟩
    | ok m =>
      cases shown : Text.isBlankText m.address with
      | true =>
        simp only [geocode, Action.bind_apply, owned, Action.check_apply, own, shown]
        exact .inl ⟨_, rfl⟩
      | false => exact .inr ⟨chain, m, rfl, rfl, shown⟩

theorem geocode_geocoded (chain : Option (List Provider)) (who : Principal) (id : Int)
    (d : Directory) : Geocoded who id d (geocode chain who id d) := by
  obtain ⟨e, refused⟩ | ⟨asked, m, rfl, own, shown⟩ := geocode_cases chain who id d
  · rw [refused]
    exact .refused e
  · rw [geocode_of_owned own shown]
    have linked := link_linked asked (job id m.address) d
    obtain ⟨p, origin, d', link, _, found⟩ | ⟨e, x, d', link, _, failed⟩ :=
      locate_cases asked id m.address d
    · rw [link] at linked
      rw [found]
      exact .placed m p origin d' own linked
    · rw [link] at linked
      rw [failed]
      cases e with
      | crash => exact .crashed m x d' own linked
      | _ => exact .unplaced m _ x d' own linked

/-- A call that succeeds links the address of the merchant and reads the metadata of the point. -/
theorem geocode_eq_ok {chain : Option (List Provider)} {who : Principal} {id : Int}
    {d d' : Directory} {r : Merchant} (h : geocode chain who id d = (.ok r, d')) :
    ∃ asked m p origin d₁, ownedIn who id d.tables = .ok m ∧
      Text.isBlankText m.address = false ∧
      Geocoding.link asked (job id m.address) d = (.ok p, d₁) ∧ p.typedMetadata = .ok origin ∧
      (r, d') = d₁.announcing .merchantUpdated who (placedAt (tried m) p origin)
        (d₁.tables.updateMerchant d₁.engine (placedAt (tried m) p origin)) := by
  obtain ⟨e, refused⟩ | ⟨asked, m, rfl, own, shown⟩ := geocode_cases chain who id d
  · cases refused.symm.trans h
  · rw [geocode_of_owned own shown] at h
    obtain ⟨p, origin, d₁, link, typed, found⟩ | ⟨e, _, d₁, _, _, failed⟩ :=
      locate_cases asked id m.address d
    · rw [found] at h
      cases h
      exact ⟨asked, m, p, origin, d₁, own, shown, link, typed, rfl⟩
    · rw [failed] at h
      cases e <;> cases h

/-- A call that fails though its merchant has an address writes the failure down, which is one of the
link or of reading the metadata of the point. -/
theorem geocode_eq_error {chain : List Provider} {who : Principal} {id : Int} {d d' : Directory}
    {m : Merchant} {e : Failure} (own : ownedIn who id d.tables = .ok m)
    (shown : Text.isBlankText m.address = false) (fair : e ≠ .crash)
    (h : geocode (some chain) who id d = (.error e, d')) :
    ∃ x d₁, Geocoding.link chain (job id m.address) d = (x, d₁) ∧
      (x = .error e ∨ ∃ p, x = .ok p ∧ p.typedMetadata = .error e) ∧
      d' = { d₁ with tables := d₁.tables.updateMerchant d₁.engine (unresolved (tried m) e) } := by
  rw [geocode_of_owned own shown] at h
  obtain ⟨p, origin, d₁, _, _, found⟩ | ⟨e', x, d₁, link, cause, failed⟩ :=
    locate_cases chain id m.address d
  · rw [found] at h
    cases h
  · rw [failed] at h
    cases e' with
    | crash =>
      cases h
      exact absurd rfl fair
    | _ =>
      cases h
      exact ⟨x, d₁, link, cause, rfl⟩

end Merchants

end Gazetteer
