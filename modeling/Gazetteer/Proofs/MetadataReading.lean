import Gazetteer.Proofs.Decisions
import Gazetteer.Proofs.JsonReading

/-!
# Which metadata read by name

The text of a point's metadata is read as an object of any members, and by the names that are known.
An object can be read in the second way where each of its known members has a value of the kind its
field wants; the others only have to be whole. So what was once read in both ways can be copied, and
the copy is read by name again.

* `RecordField.Takes`: the field reads the text of the value.
* `Decoder.readFields_of_shaped`: the members of a written object are read into a record.
* `Metadata.Readable`: an object whose text reads by name.
* `GeoPoint.typedMetadata_render`: metadata written from one do.
* `GeoPoint.notes_of_read`: what provider and kind of place are in metadata that read in both ways.
-/

set_option autoImplicit false

namespace Gazetteer.Json

/-! ## Members and fields -/

/-- The field reads the text of the value. -/
def RecordField.Takes {σ : Type} (f : RecordField σ) (room : Nat) (j : Json) : Prop :=
  ∀ s, Shaped j s → ∃ put, f.read room s = .ok put

theorem RecordField.name_of_answersTo {σ : Type} {f : RecordField σ} {k : String}
    (single : f.others = []) (h : f.answersTo k = true) : f.name = k := by
  simpa [answersTo, single] using h

namespace Decoder

variable {σ : Type} {fields : List (RecordField σ)} {room : Nat} {closed : Bool}

/-- Every member of an object that was read stands in its text. -/
theorem mem_of_members {seen read : Object} {ms : List (Option String × Source)}
    (h : members room closed seen ms = .ok read) {m : String × Json} (hm : m ∈ read) :
    m ∈ seen ∨ ∃ s, (some m.1, s) ∈ ms ∧ value room s = .ok m.2 := by
  induction ms generalizing seen with
  | nil =>
    rw [members] at h
    split at h
    · cases h
      exact .inl hm
    · cases h
  | cons first rest ih =>
    obtain ⟨name, s⟩ := first
    cases name with
    | none => cases h
    | some k =>
      obtain ⟨j, here, others⟩ := bind_eq_ok h
      obtain old | ⟨s', stands, reads⟩ := ih others
      · obtain rfl | old := mem_insert old
        · exact .inr ⟨s, List.mem_cons_self, here⟩
        · exact .inl old
      · exact .inr ⟨s', List.mem_cons_of_mem _ stands, reads⟩

/-- Every member that a field answers to was read by it. -/
theorem read_of_readFields {seen : List String} {acc : σ} {ms : List (Option String × Source)}
    {r : List String × σ} (h : readFields fields room closed seen acc ms = .ok r) {k : String}
    {s : Source} {f : RecordField σ} (hm : (some k, s) ∈ ms)
    (known : fields.find? (·.answersTo k) = some f) : ∃ put, f.read room s = .ok put := by
  induction ms generalizing seen acc with
  | nil => cases hm
  | cons first rest ih =>
    obtain ⟨name, v⟩ := first
    cases name with
    | none => cases h
    | some name =>
      rw [readFields] at h
      obtain same | later := List.mem_cons.1 hm
      · cases same
        rw [known] at h
        simp only at h
        split at h
        · cases h
        · obtain ⟨put, read, _⟩ := bind_eq_ok h
          exact ⟨put, read⟩
      · split at h
        · split at h
          · exact ih h later
          · cases h
        · split at h
          · cases h
          · obtain ⟨put, _, others⟩ := bind_eq_ok h
            exact ih others later

/-- The members of a written object are read into a record, when no two have one name and each
known one has a value that its field takes. -/
theorem readFields_of_shaped (single : ∀ f ∈ fields, f.others = []) {members : Object}
    {ss : List (Option String × Source)} (shaped : MembersShaped members ss)
    (names : (members.map Prod.fst).Nodup) {seen : List String}
    (fresh : ∀ m ∈ members, m.1 ∉ seen)
    (taken : ∀ m ∈ members, ∀ f, fields.find? (·.answersTo m.1) = some f → f.Takes room m.2)
    (acc : σ) : ∃ r, readFields fields room true seen acc ss = .ok r := by
  induction members generalizing ss seen acc with
  | nil =>
    obtain rfl := shaped
    exact ⟨(seen, acc), rfl⟩
  | cons m rest ih =>
    obtain ⟨k, v⟩ := m
    obtain ⟨s, more, rfl, first, others⟩ := shaped
    obtain ⟨new, names⟩ := List.nodup_cons.1 names
    have later := fun m hm => taken m (List.mem_cons_of_mem _ hm)
    have unseen : ∀ m ∈ rest, m.1 ∉ seen := fun m hm => fresh m (List.mem_cons_of_mem _ hm)
    rw [readFields]
    cases known : fields.find? (·.answersTo k) with
    | none =>
      simp only [isWhole_of_shaped first, if_true]
      exact ih others names unseen later acc
    | some f =>
      have name : f.name = k :=
        f.name_of_answersTo (single f (List.mem_of_find?_eq_some known))
          (by simpa using List.find?_some known)
      have once : seen.contains f.name = false := by
        simpa [name] using fresh (k, v) List.mem_cons_self
      obtain ⟨put, read⟩ := taken (k, v) List.mem_cons_self f known s first
      simp only [once, Bool.false_eq_true, if_false, read]
      refine ih others names ?_ later (put acc)
      intro m hm again
      obtain same | again := List.mem_cons.1 again
      · exact new (List.mem_map.2 ⟨m, hm, same.trans name⟩)
      · exact unseen m hm again

/-- A record all of whose fields may be left out is read from a written object. -/
theorem recordObject_of_shaped (single : ∀ f ∈ fields, f.others = [])
    (leftOut : ∀ f ∈ fields, f.leftOut = true) {members : Object}
    {ss : List (Option String × Source)} (shaped : MembersShaped members ss)
    (names : (members.map Prod.fst).Nodup)
    (taken : ∀ m ∈ members, ∀ f, fields.find? (·.answersTo m.1) = some f → f.Takes room m.2)
    (initial : σ) : ∃ a, recordObject fields initial room true ss = .ok a := by
  obtain ⟨⟨seen, acc⟩, read⟩ :=
    readFields_of_shaped single shaped names (fun _ _ => List.not_mem_nil) taken initial
  have complete : complete fields seen = true := by
    rw [Decoder.complete, List.all_eq_true]
    intro f hf
    rw [leftOut f hf, Bool.true_or]
  refine ⟨acc, ?_⟩
  rw [recordObject, read]
  exact if_pos complete

/-! ## Whole texts -/

/-- A text decodes where its first value does and only blanks follow. -/
theorem ofText_eq_ok_iff {α : Type} {d : Decoder α} {s : String} {a : α} :
    ofText d s = .ok a ↔
      d maxNesting (Source.read s.toList).1 = .ok a ∧
        (Source.skipSpace (Source.read s.toList).2).isEmpty = true := by
  simp only [ofText]
  cases d maxNesting (Source.read s.toList).1 with
  | error e => simp
  | ok b =>
    dsimp only
    split
    · next ended => exact (and_iff_left ended).symm
    · next more =>
      refine iff_of_false ?_ fun h => more h.2
      intro h
      cases h

theorem unwanted_ne_ok {α : Type} (s : Source) (a : α) : unwanted s ≠ .ok a := by
  intro h
  simp only [unwanted] at h
  split at h
  · cases h
  · cases h
  · split at h <;> cases h
  · cases h

/-- Only a text between quotes reads as a text. -/
theorem text_eq_ok {s : Source} {t : String} (h : text room s = .ok t) : s = .text (some t) := by
  unfold text at h
  split at h
  · cases h
    rfl
  · exact absurd h (unwanted_ne_ok _ _)

/-- Only the text of an object reads as one. -/
theorem object_eq_ok {s : Source} {read : Object} (h : object (room + 1) s = .ok read) :
    ∃ ms closed, s = .object ms closed ∧ members room closed [] ms = .ok read := by
  unfold object at h
  split at h
  · cases h
  · next same =>
    cases same
    exact ⟨_, _, rfl, h⟩
  · exact absurd h (unwanted_ne_ok _ _)

end Decoder

/-! ## Notes -/

/-- A text, or `null` in its place. -/
def IsNote (j : Json) : Prop := j = .null ∨ ∃ t, j = .text t

/-- What is read as a text that may be absent is a note. -/
theorem isNote_of_read {room : Nat} {s : Source} {note : Option String} {j : Json}
    (read : Decoder.optional .text room s = .ok note) (value : Decoder.value room s = .ok j) :
    IsNote j := by
  unfold Decoder.optional at read
  split at read
  · cases value
    exact .inl rfl
  · obtain ⟨t, text, _⟩ := ok_of_map read
    obtain rfl := Decoder.text_eq_ok text
    cases value
    exact .inr ⟨t, rfl⟩

theorem IsNote.takes {σ : Type} {j : Json} (h : IsNote j) (name : String)
    (put : Option String → σ → σ) (room : Nat) :
    (RecordField.defaulted name (.optional .text) put).Takes room j := by
  intro s shaped
  obtain rfl | ⟨t, rfl⟩ := h
  · obtain rfl := shaped
    exact ⟨_, rfl⟩
  · obtain rfl := shaped
    exact ⟨_, rfl⟩

end Gazetteer.Json

namespace Gazetteer

open Json (Decoder RecordField Source IsNote)

/-! ## Metadata of points -/

namespace Metadata

theorem fields_single : ∀ f ∈ fields, f.others = [] := by
  simp [fields, RecordField.defaulted]

theorem fields_leftOut : ∀ f ∈ fields, f.leftOut = true := by
  simp [fields, RecordField.defaulted]

/-- The text of the object reads by name. -/
structure Readable (members : Json.Object) : Prop where
  increasing : (members.map Prod.fst).Pairwise (· < ·)
  taken : ∀ m ∈ members, ∀ f, fields.find? (·.answersTo m.1) = some f →
    f.Takes (Json.maxNesting - 1) m.2

/-- The names that are copied from one point to another. -/
def IsOrigin (name : String) : Prop := name = "provider" ∨ name = "place_type"

theorem find?_origin {name : String} (origin : IsOrigin name) :
    ∃ put, fields.find? (·.answersTo name) = some (.defaulted name (.optional .text) put) := by
  obtain rfl | rfl := origin <;> exact ⟨_, rfl⟩

/-- A note can be added under a name that is copied. -/
theorem Readable.insertNew {members : Json.Object} (h : Readable members) {name : String}
    (origin : IsOrigin name) {j : Json} (note : IsNote j) :
    Readable (Json.insertNew name j members) := by
  rw [Json.insertNew]
  split
  · exact h
  · refine ⟨Json.insert_increasing name j h.increasing, ?_⟩
    intro m hm f known
    obtain rfl | old := Json.mem_insert hm
    · obtain ⟨put, found⟩ := find?_origin origin
      cases found.symm.trans known
      exact note.takes name put _
    · exact h.taken m old f known

theorem readable_job (id : Int) : Readable [("merchant_id", .int id)] := by
  refine ⟨List.pairwise_singleton _ _, ?_⟩
  intro m hm f known
  obtain rfl := List.mem_singleton.1 hm
  cases known

end Metadata

namespace GeoPoint

variable {p : GeoPoint}

/-- Metadata written from an object that reads by name do so. -/
theorem typedMetadata_render {members : Json.Object}
    (written : p.metadata = Json.render (.object members)) (readable : Metadata.Readable members) :
    ∃ origin, p.typedMetadata = .ok origin := by
  obtain ⟨_, read, ⟨ss, rfl, shaped⟩⟩ := Json.read_render (.object members)
  have names : (members.map Prod.fst).Nodup := readable.increasing.imp fun h => ne_of_lt h
  obtain ⟨origin, decoded⟩ := Decoder.recordObject_of_shaped Metadata.fields_single
    Metadata.fields_leftOut shaped names readable.taken .empty
  replace decoded : Metadata.decoder Json.maxNesting (.object ss true) = .ok origin := decoded
  refine ⟨origin, ?_⟩
  rw [typedMetadata, written, Json.isBlankText_render, if_neg Bool.false_ne_true, Decoder.ofText,
    read]
  simp [decoded, Json.Source.skipSpace, liftFault]

theorem liftFault_eq_ok_iff {α : Type} {x : Except Json.Fault α} {a : α} :
    liftFault x = .ok a ↔ x = .ok a := by
  cases x <;> simp [liftFault]

/-- Metadata that are not blank are read from one value, which only blanks follow. -/
theorem metadataObject_eq_ok_iff (shown : ¬Text.isBlankText p.metadata = true)
    {members : Json.Object} :
    p.metadataObject = .ok members ↔
      Decoder.object Json.maxNesting (Source.read p.metadata.toList).1 = .ok members ∧
        (Source.skipSpace (Source.read p.metadata.toList).2).isEmpty = true := by
  rw [metadataObject, if_neg shown, liftFault_eq_ok_iff, Decoder.ofText_eq_ok_iff]

theorem typedMetadata_eq_ok_iff (shown : ¬Text.isBlankText p.metadata = true) {t : Metadata} :
    p.typedMetadata = .ok t ↔
      Metadata.decoder Json.maxNesting (Source.read p.metadata.toList).1 = .ok t ∧
        (Source.skipSpace (Source.read p.metadata.toList).2).isEmpty = true := by
  rw [typedMetadata, if_neg shown, liftFault_eq_ok_iff, Decoder.ofText_eq_ok_iff]

/-- Where metadata read in both ways, the provider and the kind of place in them are notes. -/
theorem notes_of_read {origin : Metadata} {members : Json.Object}
    (typed : p.typedMetadata = .ok origin) (object : p.metadataObject = .ok members)
    {m : String × Json} (hm : m ∈ members) (name : Metadata.IsOrigin m.1) : IsNote m.2 := by
  by_cases shown : Text.isBlankText p.metadata = true
  · rw [metadataObject, if_pos shown] at object
    cases object
    cases hm
  · obtain ⟨object, _⟩ := (metadataObject_eq_ok_iff shown).1 object
    obtain ⟨ms, closed, source, read⟩ := Decoder.object_eq_ok object
    obtain ⟨record, _⟩ := (typedMetadata_eq_ok_iff shown).1 typed
    rw [source] at record
    obtain ⟨_, fieldsRead, _⟩ := bind_eq_ok record
    obtain old | ⟨s, stands, value⟩ := Decoder.mem_of_members read hm
    · cases old
    · obtain ⟨put, found⟩ := Metadata.find?_origin name
      obtain ⟨_, reads⟩ := Decoder.read_of_readFields fieldsRead stands found
      obtain ⟨note, reads, _⟩ := ok_of_map reads
      exact Json.isNote_of_read reads value

end GeoPoint

end Gazetteer
