import Gazetteer.Proofs.ImportRows
import Gazetteer.Proofs.Placements

/-!
# One place for an address

The points on record are the cache of the providers' answers, and there may be many points of one
address and source: they are copied for merchants, change hands and go with their merchants. As long
as nobody writes points by hand, all points of an address and a source lie at one place.

* `Tables.Coherent`: points of one address and source lie at one place.
* `Tables.Derives`: points that change hands or go.
* `Tables.Shows`: a point that was answered is on record.
* `Saved.coherent`, `Linked.coherent`: what is added lies where the others lie.
* `Directory.Rearranges`: the other calls, for which nobody is asked.
* `advance_coherent`: steps from an empty directory.
-/

set_option autoImplicit false

namespace Gazetteer

/-! ## Points of one address and source -/

namespace GeoPoint

/-- The points are of one address and one source. -/
def SameKey (p q : GeoPoint) : Prop := p.address = q.address ∧ p.source = q.source

/-- Where a point lies and how fine the answer was. -/
def spot (p : GeoPoint) : Float × Float × Int := (p.longitude, p.latitude, p.accuracy)

/-- Where a point lies, its numbers by their value. -/
def value (p : GeoPoint) : Float × Float × Int :=
  (unsigned p.longitude, unsigned p.latitude, p.accuracy)

theorem value_of_spot {p q : GeoPoint} (h : p.spot = q.spot) : p.value = q.value := by
  obtain ⟨longitude, latitude, accuracy⟩ : p.longitude = q.longitude ∧ p.latitude = q.latitude ∧
      p.accuracy = q.accuracy := by
    simpa [spot] using h
  rw [value, value, longitude, latitude, accuracy]

theorem value_kept (e : Engine) (p : GeoPoint) : (e.keptPoint p).value = p.value := by
  rw [value, value, Engine.keptPoint, unsigned_keptFloat, unsigned_keptFloat]

end GeoPoint

namespace Tables

/-- All points of one address and source lie at one place. -/
def Coherent (t : Tables) : Prop :=
  ∀ p ∈ t.points.rows, ∀ q ∈ t.points.rows, p.SameKey q → p.spot = q.spot

/-- Every point was there before, at its place and for its address and source. -/
def Derives (t t' : Tables) : Prop :=
  ∀ p ∈ t'.points.rows, ∃ q ∈ t.points.rows, q.SameKey p ∧ q.spot = p.spot

variable {t t' t'' : Tables} {e : Engine}

theorem coherent_empty : empty.Coherent := fun _ h => nomatch h

theorem Derives.of_points (h : t'.points = t.points) : t.Derives t' :=
  fun p hp => ⟨p, h ▸ hp, ⟨rfl, rfl⟩, rfl⟩

theorem Derives.trans (h : t.Derives t') (h' : t'.Derives t'') : t.Derives t'' := by
  intro p hp
  obtain ⟨q, hq, ⟨address, source⟩, spot⟩ := h' p hp
  obtain ⟨r, hr, ⟨address', source'⟩, spot'⟩ := h q hq
  exact ⟨r, hr, ⟨address'.trans address, source'.trans source⟩, spot'.trans spot⟩

theorem Derives.of_keep {f : GeoPoint → Bool} (h : t'.points = t.points.keep f) : t.Derives t' := by
  intro p hp
  rw [h] at hp
  exact ⟨p, (List.mem_filter.1 hp).1, ⟨rfl, rfl⟩, rfl⟩

theorem setPointMerchant_derives (i : Int) (target : Option Int) (t : Tables) :
    t.Derives (t.setPointMerchant i target) := by
  intro p hp
  obtain ⟨q, hq, rfl⟩ := List.mem_map.1 hp
  refine ⟨q, hq, ?_⟩
  rw [Table.changed]
  split <;> exact ⟨⟨rfl, rfl⟩, rfl⟩

theorem movePoints_derives (target : Option Int) (ids : List Int) (t : Tables) :
    t.Derives (t.movePoints target ids) := by
  induction ids generalizing t with
  | nil => exact .of_points rfl
  | cons i rest ih => exact (setPointMerchant_derives i target t).trans (ih _)

theorem repoint_derives (id : Int) (points : Option (List Int)) (t : Tables) :
    t.Derives (t.repoint id points) := by
  cases points with
  | none => exact .of_points rfl
  | some ids =>
    rw [repoint, releasePoints_eq, holdPoints_eq]
    exact Derives.trans (movePoints_derives none _ t) (movePoints_derives (some id) ids _)

theorem Coherent.derives (h : t.Coherent) (derives : t.Derives t') : t'.Coherent := by
  intro p hp q hq same
  obtain ⟨p', hp', ⟨address, source⟩, spot⟩ := derives p hp
  obtain ⟨q', hq', ⟨address', source'⟩, spot'⟩ := derives q hq
  have before : p'.SameKey q' :=
    ⟨address.trans (same.1.trans address'.symm), source.trans (same.2.trans source'.symm)⟩
  exact spot.symm.trans ((h p' hp' q' hq' before).trans spot')

/-- A new point keeps coherence if it lies where the points of its address and source lie. -/
theorem Coherent.insertPoint (h : t.Coherent) {p : GeoPoint}
    (fits : ∀ q ∈ t.points.rows, q.SameKey p → q.spot = (e.keptPoint p).spot) :
    (t.insertPoint e p).2.Coherent := by
  intro q hq r hr same
  obtain hq | hq := List.mem_append.1 hq
  · obtain hr | hr := List.mem_append.1 hr
    · exact h q hq r hr same
    · obtain rfl := List.mem_singleton.1 hr
      exact fits q hq same
  · obtain rfl := List.mem_singleton.1 hq
    obtain hr | hr := List.mem_append.1 hr
    · exact (fits r hr ⟨same.1.symm, same.2.symm⟩).symm
    · obtain rfl := List.mem_singleton.1 hr
      rfl

/-! ## Points that are answered -/

/-- The point is on record under its id, for its address and source and at its place. -/
def Shows (t : Tables) (p : GeoPoint) : Prop :=
  ∃ q ∈ t.points.rows, q.id = p.id ∧ q.SameKey p ∧ q.value = p.value

theorem shows_of_mem {p : GeoPoint} (h : p ∈ t.points.rows) : t.Shows p :=
  ⟨p, h, rfl, ⟨rfl, rfl⟩, rfl⟩

theorem shows_insertPoint (p : GeoPoint) : (t.insertPoint e p).2.Shows (t.insertPoint e p).1 :=
  ⟨_, List.mem_append_right _ List.mem_cons_self, rfl, ⟨rfl, rfl⟩, GeoPoint.value_kept e _⟩

theorem Shows.mono {p : GeoPoint} (h : t.Shows p)
    (keeps : ∀ q ∈ t.points.rows, q ∈ t'.points.rows) : t'.Shows p := by
  obtain ⟨q, hq, same⟩ := h
  exact ⟨q, keeps q hq, same⟩

/-- A point on record carries the place of its address and source. -/
theorem Shows.agrees {p : GeoPoint} (h : t.Shows p) (coherent : t.Coherent) :
    ∀ q ∈ t.points.rows, q.SameKey p → q.value = p.value := by
  intro q hq same
  obtain ⟨r, hr, _, key, value⟩ := h
  have spot := coherent q hq r hr ⟨same.1.trans key.1.symm, same.2.trans key.2.symm⟩
  exact (GeoPoint.value_of_spot spot).trans value

end Tables

/-! ## Geocoding -/

namespace Geocoding

variable {d : Directory}

theorem Saved.coherent {address source : String} {metadata : Json.Object}
    {r : Except Failure GeoPoint × Directory} (h : Saved address source metadata d r)
    (coherent : d.tables.Coherent) : r.2.tables.Coherent := by
  cases h with
  | refused e ls => exact coherent
  | onRecord p _ => exact coherent
  | added answer ls r new _ h =>
    subst h
    -- there is no other point of the address and the source, so any answer will do
    refine coherent.insertPoint ?_
    intro q hq same
    exact absurd same (Tables.pointFor?_eq_none_iff.1 new q hq)

theorem Saved.keeps_rows {address source : String} {metadata : Json.Object}
    {r : Except Failure GeoPoint × Directory} (h : Saved address source metadata d r) :
    ∀ q ∈ d.tables.points.rows, q ∈ r.2.tables.points.rows := by
  intro q hq
  cases h with
  | refused e ls => exact hq
  | onRecord p _ => exact hq
  | added answer ls r _ _ h =>
    subst h
    exact List.mem_append_left _ hq

theorem Saved.shows {address source : String} {metadata : Json.Object} {d' : Directory}
    {p : GeoPoint} (h : Saved address source metadata d (.ok p, d')) :
    (p.address = address ∧ p.source = source) ∧ d'.tables.Shows p := by
  cases h with
  | onRecord _ record =>
    obtain ⟨stored, key⟩ := Tables.pointFor?_some record
    exact ⟨key, Tables.shows_of_mem stored⟩
  | added answer ls r _ _ h =>
    subst h
    exact ⟨⟨rfl, rfl⟩, Tables.shows_insertPoint _⟩

/-- A copy lies where the point on record lies, as that one is in the form in which points are
kept. -/
theorem Linked.coherent {job : Job} {r : Except Failure GeoPoint × Directory} (h : Linked job d r)
    (coherent : d.tables.Coherent) (kept : d.tables.PointsKept d.engine) :
    r.2.tables.Coherent := by
  cases h with
  | refused e ls => exact coherent
  | loose p d' _ saved => exact saved.coherent coherent
  | held m p _ _ _ => exact coherent
  | adopted m p d' _ saved _ =>
    have after : d'.tables.Coherent := saved.coherent coherent
    exact after.derives (Tables.setPointMerchant_derives p.id (some m) d'.tables)
  | reused m holder p q _ _ _ _ _ _ => exact coherent
  | copied m holder p recorded r _ record _ _ _ _ _ h =>
    subst h
    have stored := (Tables.pointFor?_some record).1
    refine coherent.insertPoint ?_
    intro q hq same
    have same_spot : q.spot = p.spot := coherent q hq p stored same
    have kept_spot : (d.engine.keptPoint p).spot = p.spot := congrArg GeoPoint.spot (kept p stored)
    exact same_spot.trans kept_spot.symm

theorem Linked.shows {job : Job} {d' : Directory} {p : GeoPoint}
    (h : Linked job d (.ok p, d')) :
    (p.address = job.address ∧ p.source = job.source) ∧ d'.tables.Shows p := by
  cases h with
  | loose _ _ _ saved => exact saved.shows
  | held m _ _ record _ =>
    obtain ⟨stored, key⟩ := Tables.pointFor?_some record
    exact ⟨key, Tables.shows_of_mem stored⟩
  | adopted m p d' _ saved _ =>
    obtain ⟨key, q, stored, id, same, value⟩ := saved.shows
    let give := Table.changed p.id fun p : GeoPoint => { p with merchant := some m }
    have given : give q = withKey p.id { q with merchant := some m } := if_pos id
    refine ⟨key, give q, List.mem_map_of_mem stored, ?_⟩
    rw [given]
    exact ⟨rfl, same, value⟩
  | reused m holder q _ _ record _ _ own same =>
    obtain ⟨_, address, source⟩ := Tables.pointFor?_some record
    have stored := (List.mem_filter.1 own).1
    exact ⟨⟨same.1.trans address, same.2.trans source⟩, Tables.shows_of_mem stored⟩
  | copied m holder q recorded r _ record _ _ _ _ _ h =>
    obtain ⟨_, key⟩ := Tables.pointFor?_some record
    cases h
    exact ⟨key, Tables.shows_insertPoint _⟩

end Geocoding

/-! ## Calls -/

/-- Neither does the call write points by hand nor does it pass over the points on record. -/
def Command.usesCache : Command → Bool
  | .points (.create _) | .points (.update _ _) => false
  | .geocoding (.resolve _ _) => false
  | _ => true

/-- Points change hands or go, and nobody is asked for any. -/
structure Directory.Rearranges (d d' : Directory) : Prop where
  points : d.tables.Derives d'.tables
  lookups : d'.lookups = d.lookups

theorem Directory.Rearranges.of_points {d d' : Directory}
    (points : d'.tables.points = d.tables.points) (lookups : d'.lookups = d.lookups) :
    d.Rearranges d' :=
  ⟨.of_points points, lookups⟩

section

variable (who : Principal) (d : Directory)

namespace Merchants

theorem create_rearranges (draft : MerchantDraft) : d.Rearranges (create who draft d).2 := by
  rw [create_eq]
  refine Action.guarded_keeps (.of_points rfl rfl) ?_
  intro _ _
  have columns : (d.tables.enroll d.engine d.now who draft).2 = _ :=
    Tables.enroll_columns d.now draft
  refine ⟨?_, rfl⟩
  show d.tables.Derives (d.tables.enroll d.engine d.now who draft).2
  rw [columns]
  exact Tables.movePoints_derives (some d.tables.merchants.next) draft.pointIds d.tables

theorem update_rearranges (id : Int) (u : MerchantUpdate) :
    d.Rearranges (update who id u d).2 := by
  rw [update_eq]
  refine Action.guarded_keeps (.of_points rfl rfl) ?_
  intro m _
  refine ⟨?_, rfl⟩
  show d.tables.Derives (d.tables.rewrite d.engine d.now who id u _)
  rw [Tables.rewrite_columns]
  exact Tables.repoint_derives id u.pointIds d.tables

theorem delete_rearranges (id : Int) : d.Rearranges (delete who id d).2 := by
  rw [delete_eq]
  refine Action.guarded_keeps (.of_points rfl rfl) ?_
  intro m _
  exact ⟨.of_keep rfl, rfl⟩

theorem find_rearranges (id : Int) : d.Rearranges (find who id d).2 := by
  rw [find_eq]
  exact Action.guarded_keeps (.of_points rfl rfl) fun _ _ => .of_points rfl rfl

theorem geocode_coherent (chain : Option (List Provider)) (id : Int)
    (coherent : d.tables.Coherent) (kept : d.tables.PointsKept d.engine) :
    (geocode chain who id d).2.tables.Coherent := by
  have done := geocode_geocoded chain who id d
  generalize geocode chain who id d = r at done
  cases done with
  | refused e => exact coherent
  | placed m p origin d' _ linked => exact linked.coherent coherent kept
  | unplaced m e x d' _ linked => exact linked.coherent coherent kept
  | crashed m x d' _ linked => exact linked.coherent coherent kept

end Merchants

theorem TagCommand.perform_rearranges (c : TagCommand) : d.Rearranges (c.perform who d).2 := by
  have same : d.Rearranges d := .of_points rfl rfl
  cases c <;> rw [perform, map_snd]
  case create draft =>
    rw [Tags.create_eq]
    exact Action.guarded_keeps same fun _ _ => .of_points rfl rfl
  case find id => exact same
  case list search category paging => exact same
  case update id draft =>
    rw [Tags.update_eq]
    exact Action.guarded_keeps same fun _ _ => .of_points rfl rfl
  case delete id =>
    rw [Tags.delete_eq]
    exact Action.guarded_keeps same fun _ _ => .of_points rfl rfl

theorem PointCommand.perform_rearranges (c : PointCommand)
    (cached : (Command.points c).usesCache = true) : d.Rearranges (c.perform who d).2 := by
  have same : d.Rearranges d := .of_points rfl rfl
  cases c <;> rw [perform, map_snd]
  case create draft => cases cached
  case find id => exact same
  case list merchant search paging => exact same
  case update id draft => cases cached
  case delete id =>
    rw [Points.delete_eq]
    exact Action.guarded_keeps same fun _ _ => ⟨.of_keep rfl, rfl⟩

theorem Import.importBytes_rearranges (i : Importer) (auto : Bool) (bytes : List UInt8) :
    d.Rearranges (importBytes i who auto bytes d).2 := by
  obtain ⟨e, refused⟩ | ⟨columns, records, os, d', rows, done⟩ :=
    importBytes_cases i who auto bytes d
  · rw [refused]
    exact .of_points rfl rfl
  · have brings := importRows_brings rows
    rw [done]
    exact .of_points brings.points brings.lookups

theorem MerchantCommand.perform_coherent (c : MerchantCommand) (coherent : d.tables.Coherent)
    (kept : d.tables.PointsKept d.engine) : (c.perform who d).2.tables.Coherent := by
  cases c <;> rw [perform, map_snd]
  case create draft => exact coherent.derives (Merchants.create_rearranges who d draft).points
  case find id => exact coherent.derives (Merchants.find_rearranges who d id).points
  case list search paging => exact coherent
  case update id u => exact coherent.derives (Merchants.update_rearranges who d id u).points
  case delete id => exact coherent.derives (Merchants.delete_rearranges who d id).points
  case geocode chain id => exact Merchants.geocode_coherent who d chain id coherent kept

theorem GeocodingCommand.perform_coherent (c : GeocodingCommand) (coherent : d.tables.Coherent)
    (kept : d.tables.PointsKept d.engine) : (c.perform d).2.tables.Coherent := by
  cases c <;> rw [perform, map_snd]
  case resolve chain address =>
    obtain ⟨r, ls, h⟩ := Geocoding.resolve_asks chain address d
    rw [h]
    exact coherent
  case save chain address source metadata =>
    exact (Geocoding.save_saved chain address source metadata d).coherent coherent
  case link chain job => exact (Geocoding.link_linked chain job d).coherent coherent kept
  case batch chain source addresses =>
    refine Geocoding.batch_keeps (P := fun d' => d'.tables.Coherent) ?_ addresses coherent
    intro address d' before
    exact (Geocoding.save_saved chain address source none d').coherent before
  case nearby longitude latitude radius limit =>
    obtain ⟨r, h⟩ := Geocoding.nearby_looks longitude latitude radius limit d
    rw [h]
    exact coherent

end

def Step.usesCache : Step → Bool
  | .call t => t.command.usesCache
  | .execute _ _ _ => true

theorem Step.take_coherent {s : Step} {d : Directory} (cached : s.usesCache = true)
    (coherent : d.tables.Coherent) (kept : d.tables.PointsKept d.engine) :
    (s.take d).tables.Coherent := by
  cases s with
  | call t =>
    show (t.issue d).2.tables.Coherent
    rw [Turn.issue]
    replace cached : t.command.usesCache = true := cached
    cases hc : t.command with
    | merchants c => exact c.perform_coherent _ _ coherent kept
    | tags c => exact coherent.derives (c.perform_rearranges _ _).points
    | points c => exact coherent.derives (c.perform_rearranges _ _ (hc ▸ cached)).points
    | geocoding c => exact c.perform_coherent _ coherent kept
    | importFile c =>
      rw [Command.issue, map_snd]
      exact coherent.derives (Import.importBytes_rearranges _ _ _ _ _).points
  | execute moment chain index =>
    refine Step.execute_keeps (P := fun d => d.tables.Coherent) coherent ?_
    intro job _
    exact (Geocoding.link_linked chain job _).coherent coherent kept

/-- Steps that use the cache keep it coherent. -/
theorem advance_coherent (engine : Engine) (moment : Timestamp) {steps : List Step}
    (cached : ∀ s ∈ steps, s.usesCache = true) :
    (advance steps (.empty engine moment)).tables.Coherent := by
  let P : Directory → Prop := fun d => Attainable d ∧ d.tables.Coherent
  have start : P (.empty engine moment) := ⟨⟨engine, moment, [], rfl⟩, Tables.coherent_empty⟩
  refine (advance_keeps (P := P) ?_ start).2
  rintro s hs d ⟨reached, coherent⟩
  exact ⟨reached.step s, s.take_coherent (cached s hs) coherent reached.pointsKept⟩

end Gazetteer
