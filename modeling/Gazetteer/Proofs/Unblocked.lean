import Gazetteer.Proofs.Origins
import Gazetteer.Proofs.ReadBack

/-!
# Nobody keeps a merchant from being geocoded

The points on record for an address are shared by everybody who geocodes it, so a merchant may be
given a point, or a copy of one, that somebody else wrote. Its place and its source were checked
when it was stored. Its metadata were not: a caller may write any text there. Where the metadata of
the points on record read, geocoding a merchant succeeds whoever wrote them.

* `GeoPoint.Legible`: the metadata of the point read.
* `withOrigin_readable`, `withOriginOf_readable`: the metadata that geocoding writes read by name.
* `resolvedDraft_typed`, `copyDraft_typed`: so do the points with them.
* `Geocoding.gives_of_legible`: linking an address gives a point that reads by name.
* `geocode_unblocked`: geocoding a merchant succeeds.
* `geocode_blocked`: a point whose metadata do not read keeps others from it.
-/

set_option autoImplicit false

namespace Gazetteer

open Metadata (Readable IsOrigin)
open Json (IsNote)

/-- The metadata of the point read as an object and by name. -/
structure GeoPoint.Legible (p : GeoPoint) : Prop where
  object : ∃ members, p.metadataObject = .ok members
  typed : ∃ origin, p.typedMetadata = .ok origin

namespace Geocoding

/-! ## The metadata that are written -/

theorem withOrigin_readable {metadata : Json.Object} (answer : GeocodeResult)
    (h : Readable metadata) : Readable (withOrigin answer metadata) :=
  withOrigin_induction answer h fun _ text _ origin h => h.insertNew origin (.inr ⟨text, rfl⟩)

/-- What is copied from metadata that read keeps the others readable. -/
theorem withOriginOf_readable {recorded metadata : Json.Object}
    (notes : ∀ m ∈ recorded, IsOrigin m.1 → IsNote m.2) (h : Readable metadata) :
    Readable (withOriginOf recorded metadata) :=
  withOriginOf_induction h fun m hm origin _ h => h.insertNew origin (notes m hm origin)

/-- A point with the metadata of an answer for a merchant reads by name. -/
theorem resolvedDraft_typed {p : GeoPoint} (answer : GeocodeResult) (address source : String)
    (id : Int) (written : p.metadata =
      (resolvedDraft answer address source [("merchant_id", .int id)]).metadata) :
    ∃ origin, p.typedMetadata = .ok origin :=
  GeoPoint.typedMetadata_render written (withOrigin_readable answer (Metadata.readable_job id))

/-- So does a point with the metadata of a copy, if the metadata of the other point read. -/
theorem copyDraft_typed {p q : GeoPoint} (legible : p.Legible) {recorded : Json.Object}
    (object : p.metadataObject = .ok recorded) (id : Int) (written : q.metadata =
      (copyDraft p id (withOriginOf recorded [("merchant_id", .int id)])).metadata) :
    ∃ origin, q.typedMetadata = .ok origin := by
  obtain ⟨_, typed⟩ := legible.typed
  have notes : ∀ m ∈ recorded, IsOrigin m.1 → IsNote m.2 :=
    fun _ hm => GeoPoint.notes_of_read typed object hm
  exact GeoPoint.typedMetadata_render written
    (withOriginOf_readable notes (Metadata.readable_job id))

/-! ## Linking -/

variable {chain : List Provider} {d : Directory} {address : String} {id : Int}

/-- The point that is given reads by name. -/
def Gives (chain : List Provider) (job : Job) (d : Directory) : Prop :=
  ∃ p d' origin, link chain job d = (.ok p, d') ∧ p.typedMetadata = .ok origin

/-- A new point carries metadata that were written here. -/
theorem gives_of_resolved {answer : GeocodeResult} (shown : Text.isBlankText address = false)
    (new : d.tables.pointFor? address Merchants.source = none)
    (resolved : (resolve chain address d).1 = .ok answer)
    (checked : (resolvedDraft answer address Merchants.source []).check = .ok ()) :
    Gives chain (Merchants.job id address) d := by
  let metadata : Json.Object := [("merchant_id", .int id)]
  -- the check does not look at the metadata
  have checked : (resolvedDraft answer address Merchants.source metadata).check = .ok () := checked
  obtain ⟨ls, saved⟩ := save_of_resolved (some metadata) shown new resolved checked
  let draft := resolvedDraft answer address Merchants.source metadata
  let row := (d.tables.insertPoint d.engine (draft.toPoint d.now)).1
  obtain ⟨origin, typed⟩ := resolvedDraft_typed answer address Merchants.source id (p := row) rfl
  exact ⟨_, _, origin, link_of_free rfl saved rfl, typed⟩

/-- Of a point that another merchant holds, the merchant has its own or gets a copy. -/
theorem gives_of_held {p : GeoPoint} {holder : Int} (shown : Text.isBlankText address = false)
    (record : d.tables.pointFor? address Merchants.source = some p)
    (held : p.merchant = some holder) (other : holder ≠ id) (valid : p.draft.Valid)
    (legible : ∀ q ∈ d.tables.points.rows, q.address = p.address → q.source = p.source →
      q.Legible) :
    Gives chain (Merchants.job id address) d := by
  let metadata : Json.Object := [("merchant_id", .int id)]
  have saved := save_of_pointFor chain (some metadata) shown record
  cases own : (d.tables.pointsOf id).find?
      (fun q => q.address == p.address && q.source == p.source) with
  | some q =>
    obtain ⟨held', address, source⟩ := GeoPoint.of_find? own
    obtain ⟨origin, typed⟩ := (legible q (List.mem_filter.1 held').1 address source).typed
    exact ⟨q, d, origin, link_of_reused rfl saved held other own, typed⟩
  | none =>
    have reads := legible p (Tables.pointFor?_some record).1 rfl rfl
    obtain ⟨recorded, object⟩ := reads.object
    let draft := copyDraft p id (withOriginOf recorded metadata)
    have checked : draft.check = .ok () := copyDraft_check id _ valid
    let row := (d.tables.insertPoint d.engine (draft.toPoint d.now)).1
    obtain ⟨origin, typed⟩ := copyDraft_typed reads object id (q := row) rfl
    exact ⟨row, _, origin, link_of_copied rfl saved held other own object checked, typed⟩

/-- Linking an address that the chain resolves gives a point that reads by name, when the points on
record for the address do. -/
theorem gives_of_legible {answer : GeocodeResult} (shown : Text.isBlankText address = false)
    (valid : ∀ p ∈ d.tables.points.rows, p.draft.Valid)
    (resolved : (resolve chain address d).1 = .ok answer)
    (checked : (resolvedDraft answer address Merchants.source []).check = .ok ())
    (legible : ∀ p ∈ d.tables.points.rows, p.address = address → p.source = Merchants.source →
      p.Legible) : Gives chain (Merchants.job id address) d := by
  cases record : d.tables.pointFor? address Merchants.source with
  | none => exact gives_of_resolved shown record resolved checked
  | some p =>
    obtain ⟨stored, key⟩ := Tables.pointFor?_some record
    obtain ⟨origin, typed⟩ := (legible p stored key.1 key.2).typed
    have saved := save_of_pointFor chain (some [("merchant_id", .int id)]) shown record
    cases held : p.merchant with
    | none => exact ⟨_, _, origin, link_of_free rfl saved held, typed⟩
    | some holder =>
      by_cases own : holder = id
      · exact ⟨p, d, origin, link_of_own rfl saved (own ▸ held), typed⟩
      · refine gives_of_held shown record held own (valid p stored) ?_
        rwa [key.1, key.2]

end Geocoding

/-! ## Geocoding on demand -/

theorem Merchants.geocode_of_gives {who : Principal} {m : Merchant} {chain : List Provider}
    {d : Directory} (own : m ∈ d.tables.ownMerchants who)
    (shown : Text.isBlankText m.address = false)
    (gives : Geocoding.Gives chain (job m.id m.address) d) :
    ∃ placed d', geocode (some chain) who m.id d = (.ok placed, d') := by
  obtain ⟨p, d', origin, linked, typed⟩ := gives
  rw [geocode_of_owned (ownedIn_of_mem own) shown, locate_of_link linked typed]
  exact ⟨_, _, rfl⟩

/-- Whatever was called before and whoever wrote the points on record: a merchant of the caller
whose address the providers find is geocoded, when the metadata of the points on record for the
address read. -/
theorem geocode_unblocked {d : Directory} (reached : Attainable d) (who : Principal) {m : Merchant}
    (own : m ∈ d.tables.ownMerchants who) (shown : Text.isBlankText m.address = false)
    (chain : List Provider) (moment : Timestamp) {answer : GeocodeResult}
    (resolved : (Geocoding.resolve chain m.address { d with now := moment }).1 = .ok answer)
    (longitude : -180 ≤ answer.longitude ∧ answer.longitude ≤ 180)
    (latitude : -90 ≤ answer.latitude ∧ answer.latitude ≤ 90)
    (score : 0 ≤ answer.score ∧ answer.score ≤ 100)
    (legible : ∀ p ∈ d.tables.points.rows, p.address = m.address →
      p.source = Merchants.source → p.Legible) :
    ∃ placed d', (Turn.mk who moment (.merchants (.geocode (some chain) m.id))).take d =
      (.ok (.merchant placed), d') := by
  let now : Directory := { d with now := moment }
  let draft := Geocoding.resolvedDraft answer m.address Merchants.source []
  have short : Merchants.source.length ≤ 50 := by decide
  have checked : draft.check = .ok () :=
    draft.check_eq_ok_iff.2 ⟨longitude, latitude, score, short⟩
  have gives : Geocoding.Gives chain (Merchants.job m.id m.address) now :=
    Geocoding.gives_of_legible shown reached.valid.points resolved checked legible
  obtain ⟨placed, d', done⟩ := Merchants.geocode_of_gives (d := now) own shown gives
  refine ⟨placed, d', ?_⟩
  show (Reply.merchant <$> Merchants.geocode (some chain) who m.id) now = _
  rw [Action.map_apply, done]
  rfl

/-- The rival of a bakery has a point for the same address, whose metadata read. -/
theorem bakery_beside_rival_geocoded :
    let ada : Principal := ⟨1, "ada"⟩
    let bob : Principal := ⟨2, "bob"⟩
    let chain := [Provider.fixed "map" [] fun a => .resolved ⟨116, 39, "house", 80, a, a, "map"⟩]
    let rival : MerchantFields := { MerchantFields.blank with title := "Rival" }
    let bakery : MerchantFields :=
      { MerchantFields.blank with title := "Bakery", address := "Main Street 1" }
    let metadata := "\x7b\"provider\":\"walk\",\"confidence\":1\x7d"
    let point : GeoPointDraft := ⟨some 1, Merchants.source, 13, 52, "Main Street 1", 90, metadata⟩
    let d := advance [.call ⟨bob, default, .merchants (.create ⟨rival, [], [], false⟩)⟩,
      .call ⟨bob, default, .points (.create point)⟩,
      .call ⟨ada, default, .merchants (.create ⟨bakery, [], [], false⟩)⟩] (.empty .memory default)
    ∃ placed d', (Turn.mk ada default (.merchants (.geocode (some chain) 2))).take d =
      (.ok (.merchant placed), d') := by
  intro ada bob chain rival bakery metadata point d
  have own : (d.tables.ownMerchants ada).map (fun m => (m.id, m.address)) =
      [(2, "Main Street 1")] := by decide +kernel
  have legible : d.tables.points.rows.all (fun p =>
      p.metadataObject.isOk && p.typedMetadata.isOk) = true := by decide +kernel
  obtain ⟨m, mine, same⟩ := List.mem_map.1 (own ▸ List.mem_singleton_self (2, "Main Street 1"))
  obtain ⟨id, address⟩ := Prod.mk.inj same
  have resolved : (Geocoding.resolve chain m.address { d with now := default }).1 =
      .ok ⟨116, 39, "house", 80, "Main Street 1", "Main Street 1", "map"⟩ := by
    rw [address]
    rfl
  rw [← id]
  refine geocode_unblocked ⟨.memory, default, _, rfl⟩ ada mine ?_ chain default resolved
    (by decide +kernel) (by decide +kernel) (by decide) ?_
  · rw [address]
    decide
  · intro p hp _ _
    obtain ⟨object, typed⟩ := Bool.and_eq_true_iff.1 (List.all_eq_true.1 legible p hp)
    exact ⟨ok_of_isOk object, ok_of_isOk typed⟩

/-- The rival of a bakery writes a point for its address whose metadata are no JSON. The providers
find the address, and the bakery is not geocoded. -/
theorem geocode_blocked :
    let ada : Principal := ⟨1, "ada"⟩
    let bob : Principal := ⟨2, "bob"⟩
    let chain := [Provider.fixed "map" [] fun a => .resolved ⟨116, 39, "house", 80, a, a, "map"⟩]
    let rival : MerchantFields := { MerchantFields.blank with title := "Rival" }
    let bakery : MerchantFields :=
      { MerchantFields.blank with title := "Bakery", address := "Main Street 1" }
    let point : GeoPointDraft :=
      ⟨some 1, Merchants.source, 13, 52, "Main Street 1", 90, "not json"⟩
    let d := advance [.call ⟨bob, default, .merchants (.create ⟨rival, [], [], false⟩)⟩,
      .call ⟨bob, default, .points (.create point)⟩,
      .call ⟨ada, default, .merchants (.create ⟨bakery, [], [], false⟩)⟩] (.empty .memory default)
    (d.tables.ownMerchants ada).map (fun m => (m.id, m.address)) = [(2, "Main Street 1")] ∧
      (Geocoding.resolve chain "Main Street 1" d).1 =
        .ok ⟨116, 39, "house", 80, "Main Street 1", "Main Street 1", "map"⟩ ∧
      ((Turn.mk ada default (.merchants (.geocode (some chain) 2))).take d).1 =
        .error (.serialization "not a JSON text") := by
  intro ada bob chain rival bakery point d
  have refused : ((Turn.mk ada default (.merchants (.geocode (some chain) 2))).take d).1.map
      (fun _ => ()) = .error (.serialization "not a JSON text") := by decide +kernel
  refine ⟨by decide +kernel, rfl, ?_⟩
  generalize (Turn.take _ d).1 = answered at refused ⊢
  cases answered with
  | error e =>
    cases refused
    rfl
  | ok reply => cases refused

end Gazetteer
