import Gazetteer.Proofs.Attempts
import Gazetteer.Proofs.Relinking
import Gazetteer.Proofs.Unblocked

/-!
# Geocoding on demand

Geocoding a merchant links its address and writes what came of it into the row. When that succeeds,
the row shows the place of a point that the merchant holds from then on, so geocoding it again finds
that point and counts one more attempt. When it fails, the attempt is written down with its reason.
The metadata of a point are read after the point was linked, so a point whose metadata do not read
has changed hands by then, or was copied.

* `Merchants.geocode_placed`: what is stored after a call that succeeds.
* `Merchants.geocode_of_resolved`: the call of a merchant whose row shows its point already.
* `geocode_again`: a call that succeeds, and the same call again.
* `Geocoding.LeftPoints`: what a call that fails leaves of the points.
* `geocode_unsuccessful`: a call that fails.
-/

set_option autoImplicit false

namespace Gazetteer

/-! ## Rows that are written -/

namespace Merchants

variable {e : Engine} {t : Tables} {m : Merchant}

/-- A row with the place of a point is read back with the place of the stored point. -/
theorem keptMerchant_placedAt (kept : e.keptMerchant m = m) (p : GeoPoint) (origin : Metadata) :
    e.keptMerchant (placedAt (tried m) p origin) = placedAt (tried m) (e.keptPoint p) origin := by
  have placed : e.keptMerchant (placedAt (tried m) p origin) =
      placedAt (tried (e.keptMerchant m)) (e.keptPoint p) origin := rfl
  rwa [kept] at placed

/-- The attempts as numbers: one more, or none when there is no larger word. -/
theorem tried_count (m : Merchant) : (tried m).geocodeAttempts.toNat =
    if m.geocodeAttempts.toNat + 1 < UInt32.size then m.geocodeAttempts.toNat + 1 else 0 := by
  have word : m.geocodeAttempts.toNat < UInt32.size := m.geocodeAttempts.toNat_lt
  have counted : (tried m).geocodeAttempts.toNat = (m.geocodeAttempts.toNat + 1) % UInt32.size :=
    UInt32.toNat_add m.geocodeAttempts 1
  rw [counted]
  split
  · next fits => exact Nat.mod_eq_of_lt fits
  · have last : m.geocodeAttempts.toNat + 1 = UInt32.size := by omega
    rw [last, Nat.mod_self]

/-- One more attempt is one number in the row. -/
theorem updateMerchant_tried (kept : e.keptMerchant m = m)
    (stored : t.merchants.get? m.id = some m) :
    t.updateMerchant e (tried m) = { t with merchants := t.merchants.modify m.id tried } := by
  refine congrArg (fun merchants => { t with merchants := merchants }) (Table.modify_congr ?_)
  intro r found
  cases stored.symm.trans found
  exact congrArg (withKey m.id) (Engine.revisedMerchant_noting kept _ m.geocodeDescription)

/-! ## Calls that succeed -/

variable {who : Principal} {id : Int} {d d' : Directory} {r : Merchant}

/-- After a call that succeeds the merchant has a point of its own for its address, and its row shows
where that point is. -/
theorem geocode_placed {chain : Option (List Provider)}
    (pointsKept : d.tables.PointsKept d.engine) (merchantsKept : d.tables.MerchantsKept d.engine)
    (h : geocode chain who id d = (.ok r, d')) :
    ∃ m q origin, ownedIn who id d.tables = .ok m ∧ Text.isBlankText m.address = false ∧
      d'.tables.Resolved id m.address source q ∧ q.typedMetadata = .ok origin ∧
      d'.tables.merchants.get? id = some (placedAt (tried m) q origin) ∧
      d'.engine.keptMerchant (placedAt (tried m) q origin) = placedAt (tried m) q origin ∧
      r.points = d'.tables.pointsOf id ∧
      r.valued = (d'.tables.detailed who (placedAt (tried m) q origin)).valued := by
  obtain ⟨asked, m, p, origin, d₁, own, shown, link, typed, done⟩ := geocode_eq_ok h
  obtain ⟨rfl, rfl⟩ := Prod.mk.inj done
  obtain ⟨stored, _⟩ := ownedIn_eq_ok own
  obtain rfl := id_of_ownedIn own
  have linked := Geocoding.link_linked asked (job m.id m.address) d
  rw [link] at linked
  have engine : d₁.engine = d.engine := linked.engine
  have given := Geocoding.given_of_link rfl link
  have kept : d₁.engine.keptMerchant m = m := engine ▸ merchantsKept m (Table.mem_of_get? stored)
  have row := keptMerchant_placedAt kept p origin
  have before : d₁.tables.merchants.get? m.id = some m := linked.merchants ▸ stored
  refine ⟨m, d₁.engine.keptPoint p, origin, own, shown, ?_, typed, ?_, ?_, rfl, ?_⟩
  · rw [engine]
    refine Tables.Resolved.of_points (t := d₁.tables) rfl ?_
    exact given.resolved pointsKept
  · rw [← row]
    exact Tables.get?_updateMerchant_kept (m := placedAt (tried m) p origin) before rfl rfl
  · show d₁.engine.keptMerchant _ = _
    rw [← row, Engine.keptMerchant_keptMerchant]
  · rw [← row]
    exact (Tables.valued_detailed_kept _).symm

/-- Where the merchant has its point and its row shows the place of it, a call counts one more
attempt, changes nothing else that is stored, and nobody is asked. -/
theorem geocode_of_resolved (chain : List Provider) {q : GeoPoint} {origin : Metadata}
    (own : ownedIn who id d.tables = .ok m) (shown : Text.isBlankText m.address = false)
    (kept : d.engine.keptMerchant m = m) (resolved : d.tables.Resolved id m.address source q)
    (typed : q.typedMetadata = .ok origin) (placed : placedAt m q origin = m) :
    ∃ d', geocode (some chain) who id d = (.ok (tried (d.tables.detailed who m)), d') ∧
      d'.lookups = d.lookups ∧
      d'.tables = { d.tables with merchants := d.tables.merchants.modify id tried } := by
  obtain ⟨stored, _⟩ := ownedIn_eq_ok own
  obtain rfl := id_of_ownedIn own
  have target : (job m.id m.address).merchant = some m.id := rfl
  have link := Geocoding.link_of_resolved chain target shown resolved
  have once : placedAt (tried m) q origin = tried m := congrArg tried placed
  rw [geocode_of_owned own shown, locate_of_link link typed]
  dsimp only
  rw [once, updateMerchant_tried kept stored]
  exact ⟨_, rfl, rfl, rfl⟩

end Merchants

/-- In a directory that calls and jobs have led to, geocoding a merchant that succeeds leaves it with
a stored point for its address, which is among the points that are answered. The row shows the place
and the accuracy of that point, counts the attempt, and is otherwise as it was but for the level and
the description. The same call again, at any moment and with any providers, succeeds without anybody
being asked. It counts one more attempt, changes nothing else that is stored, and answers the same
but for that. -/
theorem geocode_again {d d' : Directory} (reached : Attainable d) {who : Principal}
    {moment : Timestamp} {chain : Option (List Provider)} {id : Int} {r : Merchant}
    (h : (Turn.mk who moment (.merchants (.geocode chain id))).take d = (.ok (.merchant r), d')) :
    ∃ m q level description, m ∈ d.tables.ownMerchants who ∧ m.id = id ∧
      q ∈ r.points ∧ q ∈ d'.tables.points.rows ∧ q.merchant = some id ∧
      q.source = Merchants.source ∧ q.address = m.address ∧
      d'.tables.merchants.get? id = some { m with
        longitude := some q.longitude, latitude := some q.latitude, geocodeScore := q.accuracy,
        geocodeAttempts := m.geocodeAttempts + 1, geocodeLevel := level,
        geocodeDescription := description } ∧
      ∀ (again : List Provider) (later : Timestamp), ∃ r' d'',
        (Turn.mk who later (.merchants (.geocode (some again) id))).take d' =
          (.ok (.merchant r'), d'') ∧
        d''.lookups = d'.lookups ∧
        d''.tables = { d'.tables with
          merchants := d'.tables.merchants.modify id Merchants.tried } ∧
        r'.valued = (Merchants.tried r).valued := by
  obtain ⟨_, placed, same⟩ := Action.map_eq_ok h
  cases same
  obtain ⟨m, q, origin, own, shown, resolved, typed, row, kept, points, value⟩ :=
    Merchants.geocode_placed (d := { d with now := moment }) reached.pointsKept
      reached.merchantsKept placed
  obtain ⟨stored, mine⟩ := Merchants.ownedIn_eq_ok own
  obtain rfl := Merchants.id_of_ownedIn own
  obtain ⟨there, holder, address, source⟩ := resolved.stored
  have held : q ∈ r.points := points ▸ Tables.mem_pointsOf.2 ⟨there, holder⟩
  have listed : m ∈ d.tables.ownMerchants who :=
    List.mem_filter.2 ⟨Table.mem_of_get? stored, decide_eq_true mine⟩
  refine ⟨m, q, _, _, listed, rfl, held, there, holder, source, address, row, ?_⟩
  intro again later
  let after := Merchants.placedAt (Merchants.tried m) q origin
  have owned : Merchants.ownedIn who m.id d'.tables = .ok after :=
    Merchants.ownedIn_of_get? row mine
  obtain ⟨d'', counted, asked, tables⟩ := Merchants.geocode_of_resolved
    (d := { d' with now := later }) again owned shown kept resolved typed rfl
  refine ⟨Merchants.tried (d'.tables.detailed who after), d'', ?_, asked, tables,
    congrArg Merchants.tried value.symm⟩
  show (Reply.merchant <$> Merchants.geocode (some again) who m.id) { d' with now := later } = _
  rw [Action.map_apply, counted]
  rfl

/-- The rival of a bakery is geocoded first, so the bakery is given a copy of its point. Without any
provider it is geocoded again. -/
theorem bakery_geocoded_again :
    let ada : Principal := ⟨1, "ada"⟩
    let bob : Principal := ⟨2, "bob"⟩
    let chain := [Provider.fixed "map" [] fun a => .resolved ⟨116, 39, "house", 80, a, a, "map"⟩]
    let rival : MerchantFields :=
      { MerchantFields.blank with title := "Rival", address := "Main Street 1" }
    let bakery : MerchantFields := { rival with title := "Bakery" }
    let d := advance [.call ⟨bob, default, .merchants (.create ⟨rival, [], [], false⟩)⟩,
      .call ⟨bob, default, .merchants (.geocode (some chain) 1)⟩,
      .call ⟨ada, default, .merchants (.create ⟨bakery, [], [], false⟩)⟩] (.empty .sqlite default)
    let call (asked : List Provider) : Turn :=
      ⟨ada, default, .merchants (.geocode (some asked) 2)⟩
    ∃ r d' r' d'', (call chain).take d = (.ok (.merchant r), d') ∧
      (call []).take d' = (.ok (.merchant r'), d'') ∧ d''.lookups = d'.lookups ∧
      r'.valued = (Merchants.tried r).valued := by
  intro ada bob chain rival bakery d call
  have geocoded : ((call chain).take d).1.isOk = true := by decide +kernel
  obtain ⟨reply, answered⟩ := ok_of_isOk geocoded
  have taken : (call chain).take d = (.ok reply, ((call chain).take d).2) :=
    Prod.ext answered rfl
  obtain ⟨r, _, rfl⟩ := Action.map_eq_ok taken
  obtain ⟨m, q, _, _, _, _, _, _, _, _, _, _, repeats⟩ :=
    geocode_again ⟨.sqlite, default, _, rfl⟩ taken
  obtain ⟨r', d'', counted, asked, _, same⟩ := repeats [] default
  exact ⟨r, _, r', d'', taken, counted, asked, same⟩

/-! ## Calls that fail -/

namespace Geocoding

variable {d d' : Directory} {address : String} {id : Int} {q : GeoPoint}

/-- What an attempt at geocoding a merchant that fails leaves of the points. They are as they were; or
the metadata of the point on record for the address do not read, and that point went to the merchant,
since nobody held it, or was copied for the merchant, since another one held it. -/
inductive LeftPoints (address : String) (id : Int) (d : Directory) : Table GeoPoint → Prop
  | same : LeftPoints address id d d.tables.points
  | adopted (p : GeoPoint) (record : d.tables.pointFor? address Merchants.source = some p)
    (illegible : ¬p.Legible) (free : p.merchant = none) :
    LeftPoints address id d (d.tables.setPointMerchant p.id (some id)).points
  | copied (p : GeoPoint) (holder : Int) (metadata : Json.Object)
    (record : d.tables.pointFor? address Merchants.source = some p) (illegible : ¬p.Legible)
    (held : p.merchant = some holder) (other : holder ≠ id) :
    LeftPoints address id d
      (d.tables.insertPoint d.engine ((copyDraft p id metadata).toPoint d.now)).2.points

theorem LeftPoints.eq_of_legible {points : Table GeoPoint} (h : LeftPoints address id d points)
    (legible : ∀ p, d.tables.pointFor? address Merchants.source = some p → p.Legible) :
    points = d.tables.points := by
  cases h with
  | same => rfl
  | adopted p record illegible _ => exact absurd (legible p record) illegible
  | copied p _ _ record illegible _ _ => exact absurd (legible p record) illegible

/-- A point that a link gives and that does not read by name was the merchant's own, or is the point
on record or a copy of it, whose metadata do not read. -/
theorem Given.leftPoints (given : Given (Merchants.job id address) id d q d')
    (unread : ¬∃ origin, q.typedMetadata = .ok origin) :
    LeftPoints address id d d'.tables.points := by
  cases given with
  | own _ _ => exact .same
  | adopted p d₁ saved free =>
    cases saved with
    | onRecord _ record => exact .adopted p record (fun legible => unread legible.typed) free
    | added answer ls r _ _ made =>
      -- the metadata of a new point were written here
      subst made
      exact (unread (resolvedDraft_typed answer address Merchants.source id rfl)).elim
  | copied p holder recorded r record held other _ object made =>
    subst made
    refine .copied p holder _ record ?_ held other
    intro legible
    exact unread (copyDraft_typed legible object id rfl)

/-- A link of a merchant's address that fails, or that gives a point which does not read by name,
leaves everything but points and the record of the lookups alone. -/
theorem link_unlocated {chain : List Provider} {x : Except Failure GeoPoint} {e : Failure}
    (link : link chain (Merchants.job id address) d = (x, d'))
    (cause : x = .error e ∨ ∃ p, x = .ok p ∧ p.typedMetadata = .error e) :
    d' = { d with
      lookups := d'.lookups, tables := { d.tables with points := d'.tables.points } } ∧
    LeftPoints address id d d'.tables.points := by
  obtain rfl | ⟨p, rfl, untyped⟩ := cause
  · have linked := link_linked chain (Merchants.job id address) d
    rw [link] at linked
    cases linked with
    | refused e ls => exact ⟨rfl, .same⟩
  · have given := given_of_link rfl link
    refine ⟨given.frame, given.leftPoints ?_⟩
    rintro ⟨origin, typed⟩
    cases typed.symm.trans untyped

end Geocoding

/-- In a directory that calls and jobs have led to, geocoding a merchant of the caller that has an
address and fails, other than by a provider that crashes, leaves the row with one more attempt and
the reason in its description. The attempts are counted by a 32-bit word: behind the largest number
stands zero. Nothing else is different but the record of the lookups and perhaps the points, and
those are as they were when the metadata of the point on record for the address read. -/
theorem geocode_unsuccessful {d d' : Directory} (reached : Attainable d) {who : Principal}
    {m : Merchant} (own : m ∈ d.tables.ownMerchants who)
    (shown : Text.isBlankText m.address = false) {chain : List Provider} {moment : Timestamp}
    {e : Failure} (fair : e ≠ .crash)
    (h : (Turn.mk who moment (.merchants (.geocode (some chain) m.id))).take d = (.error e, d')) :
    d' = { d with
      now := moment, lookups := d'.lookups,
      tables := { d.tables with
        merchants := d.tables.merchants.modify m.id (Merchant.noting (m.geocodeAttempts + 1)
          (Merchants.shortened Merchants.maxDescription e.message)),
        points := d'.tables.points } } ∧
    (∃ m', d'.tables.merchants.get? m.id = some m' ∧ m'.geocodeAttempts.toNat =
      if m.geocodeAttempts.toNat + 1 < UInt32.size then m.geocodeAttempts.toNat + 1 else 0) ∧
    Geocoding.LeftPoints m.address m.id { d with now := moment } d'.tables.points ∧
    ((∀ p, d.tables.pointFor? m.address Merchants.source = some p → p.Legible) →
      d'.tables.points = d.tables.points) := by
  let now : Directory := { d with now := moment }
  have failed : Merchants.geocode (some chain) who m.id now = (.error e, d') :=
    Action.map_eq_error h
  have owned : Merchants.ownedIn who m.id now.tables = .ok m := Merchants.ownedIn_of_mem own
  obtain ⟨x, d₁, link, cause, rfl⟩ := Merchants.geocode_eq_error owned shown fair failed
  obtain ⟨frame, points⟩ := Geocoding.link_unlocated link cause
  have stored := (Merchants.ownedIn_eq_ok owned).1
  have row := Merchants.updateMerchant_unresolved (e := e) reached.merchantsKept stored
  let reason := Merchants.shortened Merchants.maxDescription e.message
  have noted := Table.get?_modify_update stored (Merchant.noting (m.geocodeAttempts + 1) reason)
  refine ⟨?_, ⟨m.noting (m.geocodeAttempts + 1) reason, ?_, Merchants.tried_count m⟩, points,
    points.eq_of_legible⟩
  · rw [← row, frame]
    rfl
  · rw [← row] at noted
    rw [frame]
    exact (congrFun noted m.id).trans (Function.update_self _ _ _)

/-- No provider knows the address of a bakery, whose attempts are counted up to the largest number. -/
theorem bakery_not_found :
    let ada : Principal := ⟨1, "ada"⟩
    let chain := [Provider.fixed "map" [] fun a => .failed (.noResults a)]
    let bakery : MerchantFields :=
      { MerchantFields.blank with
        title := "Bakery", address := "Main Street 1", geocodeAttempts := 4294967294 }
    let d := advance [.call ⟨ada, default, .merchants (.create ⟨bakery, [], [], false⟩)⟩]
      (.empty .sqlite default)
    let e : Failure := .lookup (.allFailed "map" (.noResults "Main Street 1"))
    let call : Turn := ⟨ada, default, .merchants (.geocode (some chain) 1)⟩
    (call.take d).1 = .error e ∧ (call.take d).2.tables.points = d.tables.points ∧
      (∃ m ∈ d.tables.ownMerchants ada, (call.take d).2.tables.merchants =
        d.tables.merchants.modify 1
          (Merchant.noting (m.geocodeAttempts + 1) (Merchants.shortened 100 e.message))) ∧
      ∃ m', (call.take d).2.tables.merchants.get? 1 = some m' ∧
        m'.geocodeAttempts.toNat = 4294967295 := by
  intro ada chain bakery d e call
  have own : (d.tables.ownMerchants ada).map (fun m => (m.id, m.address, m.geocodeAttempts)) =
      [(1, "Main Street 1", 4294967294)] := by decide +kernel
  have new : (d.tables.pointFor? "Main Street 1" Merchants.source).isNone = true := by
    decide +kernel
  have refused : (call.take d).1.map (fun _ => ()) = .error e := by decide +kernel
  have failed : call.take d = (.error e, (call.take d).2) := Prod.ext (error_of_map refused) rfl
  obtain ⟨m, mine, same⟩ := List.mem_map.1 (own ▸ List.mem_singleton_self _)
  obtain ⟨id, address, attempts⟩ : m.id = 1 ∧ m.address = "Main Street 1" ∧
    m.geocodeAttempts = 4294967294 := by simpa using same
  have shown : Text.isBlankText m.address = false := by
    rw [address]
    decide
  have taken : (Turn.mk ada default (.merchants (.geocode (some chain) m.id))).take d =
      (.error e, (call.take d).2) := by
    rw [id]
    exact failed
  have fair : e ≠ .crash := by decide
  obtain ⟨frame, ⟨m', row, counted⟩, _, points⟩ :=
    geocode_unsuccessful ⟨.sqlite, default, _, rfl⟩ mine shown fair taken
  refine ⟨congrArg Prod.fst failed, points ?_, ⟨m, mine, ?_⟩, m', id ▸ row, ?_⟩
  · intro p record
    rw [address, Option.isNone_iff_eq_none.1 new] at record
    cases record
  · rw [frame, id]
    rfl
  · rw [counted, attempts]
    rfl

/-- An address was saved with a provider that is no text. Geocoding a bakery there fails, and the point
is the bakery's from then on. -/
theorem bakery_keeps_illegible_point :
    let ada : Principal := ⟨1, "ada"⟩
    let chain := [Provider.fixed "map" [] fun a => .resolved ⟨116, 39, "house", 80, a, a, "map"⟩]
    let bakery : MerchantFields :=
      { MerchantFields.blank with title := "Bakery", address := "Main Street 1" }
    let metadata : Json.Object := [("provider", .int 5)]
    let d := advance
      [.call ⟨ada, default,
        .geocoding (.save chain "Main Street 1" Merchants.source (some metadata))⟩,
      .call ⟨ada, default, .merchants (.create ⟨bakery, [], [], false⟩)⟩] (.empty .memory default)
    let call : Turn := ⟨ada, default, .merchants (.geocode (some chain) 1)⟩
    (d.tables.ownMerchants ada).map (fun m => (m.id, m.address)) = [(1, "Main Street 1")] ∧
      (call.take d).1.map (fun _ => ()) = .error (.serialization "unexpected data") ∧
      (d.tables.pointsOf 1).map GeoPoint.id = [] ∧
      ((call.take d).2.tables.pointsOf 1).map GeoPoint.id = [1] := by
  decide +kernel

end Gazetteer
