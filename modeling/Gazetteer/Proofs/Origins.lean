import Gazetteer.Proofs.MetadataReading
import Gazetteer.Proofs.Validity

/-!
# Where the metadata of a point come from

To the metadata of a caller geocoding adds where the answer comes from, and to those of a job where
the point comes from that is copied. What the caller wrote stands. The metadata are stored as text,
and read back as they were put together where all numbers in them do.

* `Json.Extends`: an object with further members, where it had none of their names.
* `Json.NumbersLegible`, `Decoder.fits_of_value`: what was read can be written and read again where
  its numbers can.
* `get?_withOrigin`, `get?_withOriginOf`: what geocoding adds.
* `withOrigin_fits`, `withOriginOf_fits`: it reads back.
* `copy_of_link`: when a point is copied.
* `origin_added`: the metadata of the points that are saved and copied.
-/

set_option autoImplicit false

namespace Gazetteer.Json

/-! ## Objects with more members -/

/-- All the members of the first object, and of those that may come in addition the ones with names
that it does not have. -/
structure Extends (members : Object) (more : String → Option Json) (all : Object) : Prop where
  increasing : (all.map Prod.fst).Pairwise (· < ·)
  get? : ∀ name, Json.get? name all = (Json.get? name members).or (more name)

theorem get?_insertNew_or (key name : String) (value : Json) (members : Object) :
    Json.get? name (insertNew key value members) =
      (Json.get? name members).or (if name = key then some value else none) := by
  rw [get?_insertNew]
  split
  · next same =>
    subst same
    cases Json.get? name members <;> rfl
  · rw [Option.or_none]

/-! ## Numbers that read back -/

mutual

/-- Every number in the value reads back as it is written. -/
def NumbersLegible : Json → Prop
  | .null => True
  | .bool _ => True
  | .int n => Legible (.int n)
  | .float x => Legible (.float x)
  | .text _ => True
  | .list items => AllNumbersLegible items
  | .object members => MembersNumbersLegible members

def AllNumbersLegible : List Json → Prop
  | [] => True
  | x :: rest => x.NumbersLegible ∧ AllNumbersLegible rest

def MembersNumbersLegible : List (String × Json) → Prop
  | [] => True
  | (_, v) :: rest => v.NumbersLegible ∧ MembersNumbersLegible rest

end

theorem membersNumbersLegible_iff {members : Object} :
    MembersNumbersLegible members ↔ ∀ m ∈ members, m.2.NumbersLegible := by
  induction members with
  | nil => simp [MembersNumbersLegible]
  | cons m rest ih => simp [MembersNumbersLegible, ih]

theorem Literal.value?_number {l : Literal} {v : Json} (h : l.value? = some v) :
    (∃ n, v = .int n) ∨ ∃ x, v = .float x := by
  simp only [value?] at h
  split at h
  · split at h
    · obtain ⟨x, _, rfl⟩ := Option.map_eq_some_iff.1 h
      exact .inr ⟨_, rfl⟩
    · split at h
      · cases h
        exact .inl ⟨_, rfl⟩
      · split at h <;> cases h
        · exact .inr ⟨_, rfl⟩
        · exact .inl ⟨_, rfl⟩
  · obtain ⟨x, _, rfl⟩ := Option.map_eq_some_iff.1 h
    exact .inr ⟨_, rfl⟩

namespace Source

mutual

/-- The numbers in the shape stand in the text. -/
def Written : Source → Prop
  | .number (.known _) => False
  | .list items _ => AllWritten items
  | .object members _ => MembersWritten members
  | _ => True

def AllWritten : List Source → Prop
  | [] => True
  | s :: rest => s.Written ∧ AllWritten rest

def MembersWritten : List (Option String × Source) → Prop
  | [] => True
  | (_, s) :: rest => s.Written ∧ MembersWritten rest

end

/-- What is read with so much fuel are shapes of texts. -/
structure ReadsWritten (fuel : Nat) : Prop where
  value : ∀ cs, (readValue fuel cs).1.Written
  items : ∀ cs, AllWritten (readItems fuel cs).1
  members : ∀ cs, MembersWritten (readMembers fuel cs).1

theorem readsWritten (fuel : Nat) : ReadsWritten fuel := by
  induction fuel with
  | zero => exact ⟨fun _ => trivial, fun _ => trivial, fun _ => trivial⟩
  | succ fuel ih =>
    constructor
    · intro cs
      rw [readValue]
      split
      · trivial
      · trivial
      · trivial
      · split <;> trivial
      · split
        · trivial
        · exact ih.items _
      · split
        · trivial
        · exact ih.members _
      · split <;> trivial
    · intro cs
      have first := ih.value cs
      simp only [readItems]
      split
      · exact ⟨first, trivial⟩
      · split
        · exact ⟨first, trivial⟩
        · exact ⟨first, ih.items _⟩
      · exact ⟨first, trivial⟩
    · intro cs
      simp only [readMembers]
      split
      · split
        · trivial
        · split
          · next after _ =>
            have first := ih.value after
            split
            · exact ⟨first, trivial⟩
            · exact ⟨first, ih.members _⟩
            · exact ⟨first, trivial⟩
          · exact ⟨trivial, trivial⟩
      · trivial

theorem written_read (cs : List Char) : (read cs).1.Written := (readsWritten _).value cs

end Source

namespace Decoder

mutual

/-- A value that was read of a text can be nested where it stood, and fits as far as its numbers
read back. -/
theorem fits_of_value : ∀ {room : Nat} {s : Source} {v : Json}, s.Written →
    value room s = .ok v → v.NumbersLegible → Fits room v
  | room, .null, _, _, rfl, _ => trivial
  | room, .bool _, _, _, rfl, _ => trivial
  | room, .number (.written l), v, _, read, legible => by
    rw [value] at read
    split at read
    · next number =>
      cases read
      obtain ⟨n, rfl⟩ | ⟨x, rfl⟩ := l.value?_number number
      · exact legible
      · exact legible
    · cases read
  | room, .text (some _), _, _, rfl, _ => trivial
  | room, .list items closed, v, written, read, legible => by
    rw [value] at read
    split at read
    · cases read
    · next positive =>
      obtain ⟨vs, inside, rfl⟩ := ok_of_map read
      exact ⟨Nat.pos_of_ne_zero positive, allFit_of_values written inside legible⟩
  | room, .object ms closed, v, written, read, legible => by
    rw [value] at read
    split at read
    · cases read
    · next positive =>
      obtain ⟨vs, inside, rfl⟩ := ok_of_map read
      obtain ⟨increasing, fit⟩ :=
        fit_of_members written inside List.Pairwise.nil fun _ hm => nomatch hm
      refine ⟨Nat.pos_of_ne_zero positive, increasing, membersFit_iff.2 ?_⟩
      exact fun m hm => fit m hm (membersNumbersLegible_iff.1 legible m hm)

theorem allFit_of_values : ∀ {room : Nat} {closed : Bool} {items : List Source} {vs : List Json},
    Source.AllWritten items → values room closed items = .ok vs → AllNumbersLegible vs →
      AllFit room vs
  | room, closed, [], vs, _, read, _ => by
    rw [values] at read
    split at read <;> cases read
    trivial
  | room, closed, s :: rest, vs, ⟨written, others⟩, read, legible => by
    obtain ⟨v, here, read⟩ := bind_eq_ok read
    obtain ⟨more, later, made⟩ := bind_eq_ok read
    cases made
    exact ⟨fits_of_value written here legible.1, allFit_of_values others later legible.2⟩

/-- The members that are read are in order, and each fits as far as its numbers read back. -/
theorem fit_of_members : ∀ {room : Nat} {closed : Bool} {seen read : Object}
    {ms : List (Option String × Source)}, Source.MembersWritten ms →
      members room closed seen ms = .ok read → (seen.map Prod.fst).Pairwise (· < ·) →
      (∀ m ∈ seen, m.2.NumbersLegible → Fits room m.2) →
        (read.map Prod.fst).Pairwise (· < ·) ∧ ∀ m ∈ read, m.2.NumbersLegible → Fits room m.2
  | room, closed, seen, read, [], _, object, increasing, fit => by
    rw [members] at object
    split at object <;> cases object
    exact ⟨increasing, fit⟩
  | room, closed, seen, read, (some k, s) :: rest, ⟨written, others⟩, object, increasing, fit => by
    obtain ⟨v, here, object⟩ := bind_eq_ok object
    -- a member that is written over later need not read back, so nothing is asked of it here
    refine fit_of_members others object (insert_increasing k v increasing) ?_
    intro m hm legible
    obtain rfl | old := mem_insert hm
    · exact fits_of_value written here legible
    · exact fit m old legible

end

end Decoder

end Gazetteer.Json

namespace Gazetteer

open Json (Extends Fits get?)
open Metadata (IsOrigin)

/-- What metadata hold as an object can be written inside another one, as far as its numbers read
back. -/
theorem GeoPoint.fits_of_metadataObject {p : GeoPoint} {recorded : Json.Object}
    (object : p.metadataObject = .ok recorded) :
    ∀ m ∈ recorded, m.2.NumbersLegible → Fits (Json.maxNesting - 1) m.2 := by
  by_cases shown : Text.isBlankText p.metadata = true
  · rw [metadataObject, if_pos shown] at object
    cases object
    exact fun m hm => nomatch hm
  · obtain ⟨object, _⟩ := (metadataObject_eq_ok_iff shown).1 object
    obtain ⟨ms, closed, source, read⟩ := Json.Decoder.object_eq_ok object
    have written := Json.Source.written_read p.metadata.toList
    rw [source] at written
    exact (Json.Decoder.fit_of_members written read List.Pairwise.nil fun _ hm => nomatch hm).2

namespace Geocoding

/-! ## What is added -/

/-- What an answer adds under a name. -/
def origin? (r : GeocodeResult) (name : String) : Option Json :=
  if name = "provider" then some (.text r.provider)
  else if name = "place_type" ∧ ¬r.level.isEmpty then some (.text r.level)
  else none

/-- What is copied under a name from the metadata of another point. -/
def copied? (recorded : Json.Object) (name : String) : Option Json :=
  if name = "provider" ∨ name = "place_type" then get? name recorded else none

variable {r : GeocodeResult} {recorded metadata : Json.Object} {room : Nat}

theorem get?_withOrigin (r : GeocodeResult) (metadata : Json.Object) (name : String) :
    get? name (withOrigin r metadata) = (get? name metadata).or (origin? r name) := by
  rw [withOrigin, origin?]
  by_cases empty : r.level.isEmpty = true
  · rw [if_pos empty, Json.get?_insertNew_or]
    simp [empty]
  · rw [if_neg empty, Json.get?_insertNew_or, Json.get?_insertNew_or, Option.or_assoc]
    by_cases provider : name = "provider" <;> simp [provider, empty]

theorem get?_withOriginOf (recorded metadata : Json.Object) (name : String) :
    get? name (withOriginOf recorded metadata) =
      (get? name metadata).or (copied? recorded name) := by
  induction recorded generalizing metadata with
  | nil => simp [withOriginOf, copied?, get?]
  | cons m rest ih =>
    obtain ⟨key, value⟩ := m
    rw [withOriginOf, List.foldl_cons]
    split
    · next origin =>
      refine (ih _).trans ?_
      rw [Json.get?_insertNew_or, Option.or_assoc, copied?, copied?, get?]
      by_cases same : name = key
      · subst same
        simp [origin]
      · simp [same]
    · next other =>
      refine (ih _).trans ?_
      rw [copied?, copied?, get?]
      by_cases same : name = key
      · subst same
        rw [if_neg other, if_neg other]
      · rw [if_neg same]

/-- What holds of the metadata of a caller and is kept by adding texts to them holds with the origin
of an answer. -/
theorem withOrigin_induction {P : Json.Object → Prop} (r : GeocodeResult) (start : P metadata)
    (added : ∀ name text ms, IsOrigin name → P ms → P (Json.insertNew name (.text text) ms)) :
    P (withOrigin r metadata) := by
  have named := added "provider" r.provider metadata (.inl rfl) start
  rw [withOrigin]
  split
  · exact named
  · exact added "place_type" r.level _ (.inr rfl) named

theorem withOriginOf_induction {P : Json.Object → Prop} (start : P metadata)
    (added : ∀ m ∈ recorded, IsOrigin m.1 → ∀ ms, P ms → P (Json.insertNew m.1 m.2 ms)) :
    P (withOriginOf recorded metadata) := by
  induction recorded generalizing metadata with
  | nil => exact start
  | cons m rest ih =>
    have later := fun m hm => added m (List.mem_cons_of_mem _ hm)
    rw [withOriginOf, List.foldl_cons]
    split
    · next origin => exact ih (added m List.mem_cons_self origin metadata start) later
    · exact ih start later

/-- With its origin added, the metadata of a caller read back as long as they do without. -/
theorem withOrigin_fits (r : GeocodeResult) (fit : Fits (room + 1) (.object metadata)) :
    Fits (room + 1) (.object (withOrigin r metadata)) :=
  withOrigin_induction (P := fun ms => Fits (room + 1) (.object ms)) r fit
    fun _ _ _ _ fit => fit.insertNew trivial

/-- With the origin of another point added, those of a job read back as long as they do without and
what is added does. -/
theorem withOriginOf_fits (fit : Fits (room + 1) (.object metadata))
    (added : ∀ m ∈ recorded, IsOrigin m.1 → get? m.1 metadata = none → Fits room m.2) :
    Fits (room + 1) (.object (withOriginOf recorded metadata)) := by
  -- what was added at first keeps its name from being added again
  suffices h : Fits (room + 1) (.object (withOriginOf recorded metadata)) ∧
      ∀ name, get? name (withOriginOf recorded metadata) = none → get? name metadata = none from h.1
  refine withOriginOf_induction (P := fun ms => Fits (room + 1) (.object ms) ∧
    ∀ name, get? name ms = none → get? name metadata = none) ⟨fit, fun _ h => h⟩ ?_
  rintro m hm origin ms ⟨fits, silent⟩
  by_cases held : (get? m.1 ms).isSome = true
  · rw [Json.insertNew, if_pos held]
    exact ⟨fits, silent⟩
  · have new := Option.not_isSome_iff_eq_none.1 held
    refine ⟨fits.insertNew (added m hm origin (silent _ new)), ?_⟩
    intro name none
    rw [Json.get?_insertNew_or, Option.or_eq_none_iff] at none
    exact silent name none.1

/-! ## Points that are saved and copied -/

variable {p : GeoPoint}

theorem metadataObject_withOrigin
    (written : p.metadata = Json.render (.object (withOrigin r metadata)))
    (fit : Fits Json.maxNesting (.object metadata)) :
    ∃ all, p.metadataObject = .ok all ∧ Extends metadata (origin? r) all := by
  have fits : Fits Json.maxNesting (.object (withOrigin r metadata)) := withOrigin_fits r fit
  exact ⟨_, GeoPoint.metadataObject_render written fits, fits.2.1, get?_withOrigin r metadata⟩

theorem metadataObject_withOriginOf
    (written : p.metadata = Json.render (.object (withOriginOf recorded metadata)))
    (fit : Fits Json.maxNesting (.object metadata))
    (added : ∀ m ∈ recorded, IsOrigin m.1 → get? m.1 metadata = none →
      Fits (Json.maxNesting - 1) m.2) :
    ∃ all, p.metadataObject = .ok all ∧ Extends metadata (copied? recorded) all := by
  have fits : Fits Json.maxNesting (.object (withOriginOf recorded metadata)) :=
    withOriginOf_fits fit added
  exact ⟨_, GeoPoint.metadataObject_render written fits, fits.2.1,
    get?_withOriginOf recorded metadata⟩

/-- A copy is made where another merchant holds the point on record and the merchant has none of its
own there. -/
theorem copy_of_link {chain : List Provider} {job : Job} {d d' : Directory} {m holder : Int}
    {q : GeoPoint} (hm : job.merchant = some m)
    (record : d.tables.pointFor? job.address job.source = some p)
    (held : p.merchant = some holder) (other : holder ≠ m)
    (none : ∀ own ∈ d.tables.pointsOf m, ¬(own.address = job.address ∧ own.source = job.source))
    (linked : link chain job d = (.ok q, d')) :
    ∃ recorded row, p.metadataObject = .ok recorded ∧ d'.tables.points.get? q.id = some row ∧
      row.metadata = q.metadata ∧
      q.metadata = Json.render (.object (withOriginOf recorded (job.metadata.getD []))) := by
  have way := link_linked chain job d
  rw [linked] at way
  cases way with
  | loose _ _ nobody => cases nobody.symm.trans hm
  | held _ _ hm' record' held' =>
    cases hm.symm.trans hm'
    cases record.symm.trans record'
    exact absurd (Option.some.inj (held.symm.trans held')) other
  | adopted _ _ _ _ saved free =>
    cases saved with
    | onRecord _ record' =>
      cases record.symm.trans record'
      cases held.symm.trans free
    | added _ _ _ new => cases record.symm.trans new
  | reused _ _ _ _ hm' record' _ _ own same =>
    cases hm.symm.trans hm'
    cases record.symm.trans record'
    obtain ⟨_, address, source⟩ := Tables.pointFor?_some record
    rw [address, source] at same
    exact absurd same (none q own)
  | copied _ _ _ recorded _ hm' record' _ _ _ object _ made =>
    cases hm.symm.trans hm'
    cases record.symm.trans record'
    subst made
    exact ⟨recorded, _, object, Table.get?_insert_self d.tables.points _, rfl, rfl⟩

/-- The point is stored, and its metadata are these members and more. -/
def StoredExtended (t : Tables) (p : GeoPoint) (metadata : Json.Object)
    (more : String → Option Json) : Prop :=
  ∃ row all, t.points.get? p.id = some row ∧ row.metadata = p.metadata ∧
    p.metadataObject = .ok all ∧ Extends metadata more all

/-- Of the metadata of a caller nothing is lost. An answer adds its provider and how fine it is; a
point on record is given as it is; and a copy for another merchant adds what the point on record
holds under these names, as far as the numbers in that read back. -/
theorem origin_added (chain : List Provider) (address source : String)
    (given : Option Json.Object) (d : Directory)
    (fit : Fits Json.maxNesting (.object (given.getD []))) :
    (∀ r, Text.isBlankText address = false → d.tables.pointFor? address source = none →
      (resolve chain address d).1 = .ok r →
      (resolvedDraft r address source (given.getD [])).Valid →
        ∃ p d', save chain address source given d = (.ok p, d') ∧
          StoredExtended d'.tables p (given.getD []) (origin? r)) ∧
    (∀ other p, Text.isBlankText address = false → d.tables.pointFor? address source = some p →
      save chain address source other d = (.ok p, d)) ∧
    ∀ m holder p q d', d.tables.pointFor? address source = some p → p.merchant = some holder →
      holder ≠ m → (∀ own ∈ d.tables.pointsOf m, ¬(own.address = address ∧ own.source = source)) →
      link chain ⟨some m, address, source, given⟩ d = (.ok q, d') →
        ∃ recorded, p.metadataObject = .ok recorded ∧
          ((∀ e ∈ recorded, IsOrigin e.1 → get? e.1 (given.getD []) = none → e.2.NumbersLegible) →
            StoredExtended d'.tables q (given.getD []) (copied? recorded)) := by
  refine ⟨?_, ?_, ?_⟩
  · intro r shown new resolved valid
    obtain ⟨ls, saved⟩ :=
      save_of_resolved given shown new resolved ((GeoPointDraft.check_eq_ok_iff _).2 valid)
    let draft := resolvedDraft r address source (given.getD [])
    let row := (d.tables.insertPoint d.engine (draft.toPoint d.now)).1
    obtain ⟨all, object, extended⟩ := metadataObject_withOrigin (p := row) rfl fit
    exact ⟨row, _, saved, _, all, Table.get?_insert_self d.tables.points _, rfl, object, extended⟩
  · intro other p shown record
    exact save_of_pointFor chain other shown record
  · intro m holder p q d' record held other none linked
    obtain ⟨recorded, row, object, stored, kept, written⟩ :=
      copy_of_link rfl record held other none linked
    refine ⟨recorded, object, fun legible => ?_⟩
    have fits : ∀ e ∈ recorded, IsOrigin e.1 → get? e.1 (given.getD []) = Option.none →
        Fits (Json.maxNesting - 1) e.2 := by
      intro e he origin new
      exact GeoPoint.fits_of_metadataObject object e he (legible e he origin new)
    obtain ⟨all, object, extended⟩ := metadataObject_withOriginOf written fit fits
    exact ⟨row, all, stored, kept, object, extended⟩

/-- A note about an address stands beside the provider of the point that is copied. -/
theorem note_beside_walk :
    let walked : Json.Object := [("provider", .text "walk")]
    let note : Json.Object := [("note", .text "ring twice")]
    let point := { (default : GeoPoint) with
      merchant := some 1, source := "merchant", address := "Main Street 1",
      metadata := Json.render (.object walked) }
    let d := { Directory.empty .memory default with
      tables := (Tables.empty.insertPoint .memory point).2 }
    ∃ q d', link [] ⟨some 2, "Main Street 1", "merchant", some note⟩ d = (.ok q, d') ∧
      StoredExtended d'.tables q note (copied? walked) := by
  intro walked note point d
  have fit : Fits Json.maxNesting (.object note) :=
    ⟨by decide, List.pairwise_singleton _ _, trivial, trivial⟩
  obtain ⟨_, onRecord, copies⟩ := origin_added [] "Main Street 1" "merchant" (some note) d fit
  let p := (Tables.empty.insertPoint .memory point).1
  have record : d.tables.pointFor? "Main Street 1" "merchant" = some p := rfl
  have object : p.metadataObject = .ok walked :=
    GeoPoint.metadataObject_render rfl
      ⟨by decide, List.pairwise_singleton _ _, trivial, trivial⟩
  let job : Job := ⟨some 2, "Main Street 1", "merchant", some note⟩
  have hm : job.merchant = some 2 := rfl
  have saved : save [] job.address job.source job.metadata d = (.ok p, d) :=
    onRecord (some note) p (by decide) record
  have linked := link_of_copied hm saved rfl (by decide) rfl object (by decide +kernel)
  obtain ⟨recorded, object', stored⟩ :=
    copies 2 1 p _ _ record rfl (by decide) (fun _ hq => nomatch hq) linked
  cases object.symm.trans object'
  refine ⟨_, _, linked, stored ?_⟩
  intro e he _ _
  rw [List.mem_singleton.1 he]
  trivial

/-- A number under the name of the provider is stored as it is written, and what is written does not
read back as the same number. -/
theorem number_not_copied :
    let point := { (default : GeoPoint) with
      merchant := some 1, source := "merchant", address := "Main Street 1",
      metadata := "\x7b\"provider\":1e-30\x7d" }
    let d := { Directory.empty .memory default with
      tables := (Tables.empty.insertPoint .memory point).2 }
    let provider (p : GeoPoint) :=
      (p.metadataObject.toOption.bind (get? "provider")).map Json.render
    provider point = some "9.999999999999999e-31" ∧
      (link [] ⟨some 2, "Main Street 1", "merchant", none⟩ d).1.map provider =
        .ok (some "1e-30") := by
  decide +kernel

end Geocoding

end Gazetteer
