import Gazetteer.Proofs.MetadataReading
import Gazetteer.Proofs.Validity

/-!
# Two readings of metadata

The metadata of a point are read by name and as an object of any members. By name a list will do,
which gives the members by position, and what is not known is passed over without a look at its
value. So a text may read by name and not as an object. Where it reads in both ways, both show the
same.

* `Source.HasValue`: the shape is one of a value.
* `value_isOk_iff`, `members_isOk_iff`: values are read of these, and of no others.
* `Json.note?`, `Json.figure?`: the value of a member as one that is known by name.
* `Decoder.agree_of_read`: two readings of the same members.
* `Metadata.AgreesWith`: what is read by name are the members of an object.
* `GeoPoint.HoldsObject`: metadata that read by name are those of an object.
* `GeoPoint.readings_agree`: where the two readings of metadata agree.
-/

set_option autoImplicit false

namespace Gazetteer.Json

/-! ## Shapes of values -/

mutual

/-- The shape is one of a value in which lists and objects are nested at most so deep: it does not
break off, its numbers are not too large, and its texts hold no half of a surrogate pair. -/
def Source.HasValue (room : Nat) : Source → Prop
  | .null => True
  | .bool _ => True
  | .number n => n.value?.isSome = true
  | .text content => content.isSome = true
  | .list items closed => 0 < room ∧ closed = true ∧ Source.AllHaveValues (room - 1) items
  | .object members closed => 0 < room ∧ closed = true ∧ Source.MembersHaveValues (room - 1) members
  | .broken => False

def Source.AllHaveValues (room : Nat) : List Source → Prop
  | [] => True
  | s :: rest => s.HasValue room ∧ Source.AllHaveValues room rest

def Source.MembersHaveValues (room : Nat) : List (Option String × Source) → Prop
  | [] => True
  | (name, s) :: rest =>
    name.isSome = true ∧ s.HasValue room ∧ Source.MembersHaveValues room rest

end

namespace Decoder

mutual

theorem value_isOk_iff : ∀ {room : Nat} {s : Source},
    (∃ v, value room s = .ok v) ↔ s.HasValue room
  | _, .null => by simp [value, Source.HasValue]
  | _, .bool _ => by simp [value, Source.HasValue]
  | _, .number n => by
    rw [value, Source.HasValue]
    cases n.value? <;> simp
  | _, .text content => by
    cases content <;> simp [value, Source.HasValue]
  | room, .list items closed => by
    rw [value, Source.HasValue]
    by_cases none : room = 0
    · simp [none]
    · rw [if_neg none, exists_map_ok, values_isOk_iff, and_iff_right (Nat.pos_of_ne_zero none)]
  | room, .object ms closed => by
    rw [value, Source.HasValue]
    by_cases none : room = 0
    · simp [none]
    · rw [if_neg none, exists_map_ok, members_isOk_iff, and_iff_right (Nat.pos_of_ne_zero none)]
  | _, .broken => by simp [value, Source.HasValue]

theorem values_isOk_iff : ∀ {room : Nat} {closed : Bool} {items : List Source},
    (∃ vs, values room closed items = .ok vs) ↔
      closed = true ∧ Source.AllHaveValues room items
  | _, closed, [] => by cases closed <;> simp [values, Source.AllHaveValues]
  | room, closed, s :: rest => by
    have others (a : Json) : (∃ vs, (values room closed rest >>= fun more =>
        (pure (a :: more) : Except Fault (List Json))) = .ok vs) ↔
          closed = true ∧ Source.AllHaveValues room rest := by
      rw [exists_bind_ok, ← values_isOk_iff]
      exact exists_congr fun more => and_iff_left ⟨_, rfl⟩
    rw [values, exists_bind_ok]
    simp only [others, exists_and_right, value_isOk_iff, Source.AllHaveValues]
    exact and_left_comm

theorem members_isOk_iff : ∀ {room : Nat} {closed : Bool} {seen : Object}
    {ms : List (Option String × Source)},
    (∃ read, members room closed seen ms = .ok read) ↔
      closed = true ∧ Source.MembersHaveValues room ms
  | _, closed, _, [] => by cases closed <;> simp [members, Source.MembersHaveValues]
  | _, _, _, (none, _) :: _ => by simp [members, Source.MembersHaveValues]
  | room, closed, seen, (some k, s) :: rest => by
    rw [members, exists_bind_ok]
    simp only [members_isOk_iff, exists_and_right, value_isOk_iff, Source.MembersHaveValues,
      Option.isSome_some, true_and]
    exact and_left_comm

end

/-! ## One record, one object -/

theorem record_eq_ok {σ : Type} {fields : List (RecordField σ)} {initial a : σ} {room : Nat}
    {s : Source} (h : record fields initial (room + 1) s = .ok a) :
    (∃ ms closed, s = .object ms closed ∧ recordObject fields initial room closed ms = .ok a) ∨
      ∃ items closed, s = .list items closed := by
  unfold record at h
  split at h
  · cases h
  · cases h
  · next same =>
    cases same
    exact .inl ⟨_, _, rfl, h⟩
  · exact .inr ⟨_, _, rfl⟩
  · exact absurd h (unwanted_ne_ok _ _)

section

variable {σ : Type} {fields : List (RecordField σ)} {room : Nat} {closed : Bool}

/-- What a record and an object have in common after every member, they have in common in the end:
members that no field answers to are passed over by the record, and the others are read into it. -/
theorem agree_of_read (Agree : σ → Object → Prop)
    (passed : ∀ {acc read} k j, fields.find? (·.answersTo k) = none → Agree acc read →
      Agree acc (insert k j read))
    (taken : ∀ {acc read} k f s put j, fields.find? (·.answersTo k) = some f →
      f.read room s = .ok put → value room s = .ok j → Agree acc read →
        Agree (put acc) (insert k j read))
    {names : List String} {acc : σ} {seen read : Object} {ms : List (Option String × Source)}
    {r : List String × σ} (record : readFields fields room closed names acc ms = .ok r)
    (object : members room closed seen ms = .ok read) (start : Agree acc seen) :
    Agree r.2 read := by
  -- both go through the members in their order, and either fails where the other one stops
  induction ms generalizing names acc seen with
  | nil =>
    cases closed <;> cases record
    cases object
    exact start
  | cons m rest ih =>
    obtain ⟨name, s⟩ := m
    cases name with
    | none => cases record
    | some k =>
      obtain ⟨j, here, others⟩ := bind_eq_ok object
      rw [readFields] at record
      split at record
      · next unknown =>
        split at record
        · exact ih record others (passed k j unknown start)
        · cases record
      · next f known =>
        split at record
        · cases record
        · obtain ⟨put, read, record⟩ := bind_eq_ok record
          exact ih record others (taken k f s put j known read here start)

/-- Where a record is read of members, all of them have values if those have that no field answers
to. -/
theorem membersHaveValues_of_read
    (valued : ∀ f ∈ fields, ∀ s put, f.read room s = .ok put → s.HasValue room)
    {names : List String} {acc : σ} {ms : List (Option String × Source)} {r : List String × σ}
    (record : readFields fields room closed names acc ms = .ok r) :
    closed = true ∧ (Source.MembersHaveValues room ms ↔
      ∀ k s, (some k, s) ∈ ms → fields.find? (·.answersTo k) = none → s.HasValue room) := by
  induction ms generalizing names acc with
  | nil =>
    cases closed
    · cases record
    · exact ⟨rfl, by simp [Source.MembersHaveValues]⟩
  | cons m rest ih =>
    obtain ⟨name, s⟩ := m
    cases name with
    | none => cases record
    | some k =>
      have split : (∀ k' s', (some k', s') ∈ (some k, s) :: rest →
          fields.find? (·.answersTo k') = none → s'.HasValue room) ↔
          (fields.find? (·.answersTo k) = none → s.HasValue room) ∧
          ∀ k' s', (some k', s') ∈ rest → fields.find? (·.answersTo k') = none →
            s'.HasValue room := by
        simp only [List.mem_cons, Prod.mk.injEq, Option.some.injEq]
        constructor
        · intro h
          exact ⟨h k s (.inl ⟨rfl, rfl⟩), fun k' s' later => h k' s' (.inr later)⟩
        · rintro ⟨first, later⟩ k' s' (⟨rfl, rfl⟩ | hm)
          · exact first
          · exact later k' s' hm
      rw [split, Source.MembersHaveValues, Option.isSome_some]
      rw [readFields] at record
      split at record
      · next unknown =>
        split at record
        · obtain ⟨whole, others⟩ := ih record
          exact ⟨whole, by simp [unknown, others]⟩
        · cases record
      · next f known =>
        split at record
        · cases record
        · obtain ⟨put, read, record⟩ := bind_eq_ok record
          obtain ⟨whole, others⟩ := ih record
          have here := valued f (List.mem_of_find?_eq_some known) s put read
          exact ⟨whole, by simp [known, here, others]⟩

end

end Decoder

/-! ## Members known by name -/

/-- The value of a member as a text that may be absent. -/
def note? : Option Json → Option (Option String)
  | none => some none
  | some .null => some none
  | some (.text t) => some (some t)
  | some _ => none

/-- The value of a member as a number that may be absent; a whole one is the nearest float. -/
def figure? : Option Json → Option (Option Float)
  | none => some none
  | some .null => some none
  | some (.int n) => some (some (Float.ofInt n))
  | some (.float x) => some (some x)
  | some _ => none

section

variable {room : Nat} {s : Source} {j : Json}

theorem note?_of_read {v : Option String} (read : Decoder.optional .text room s = .ok v)
    (value : Decoder.value room s = .ok j) : note? (some j) = some v := by
  unfold Decoder.optional at read
  split at read
  · cases read
    cases value
    rfl
  · obtain ⟨t, text, rfl⟩ := ok_of_map read
    obtain rfl := Decoder.text_eq_ok text
    cases value
    rfl

theorem hasValue_of_note {v : Option String} (read : Decoder.optional .text room s = .ok v) :
    s.HasValue room := by
  unfold Decoder.optional at read
  split at read
  · trivial
  · obtain ⟨t, text, rfl⟩ := ok_of_map read
    obtain rfl := Decoder.text_eq_ok text
    exact rfl

/-- Only a number reads as one, and what it reads as is its value. -/
theorem float_eq_ok {x : Float} (h : Decoder.float room s = .ok x) :
    ∃ n v, s = .number n ∧ n.value? = some v ∧ figure? (some v) = some (some x) := by
  unfold Decoder.float at h
  split at h
  · next n =>
    split at h
    · next i value =>
      cases h
      exact ⟨n, _, rfl, value, rfl⟩
    · next y value =>
      cases h
      exact ⟨n, _, rfl, value, rfl⟩
    · cases h
    · cases h
  · exact absurd h (Decoder.unwanted_ne_ok _ _)

theorem figure?_of_read {v : Option Float} (read : Decoder.optional .float room s = .ok v)
    (value : Decoder.value room s = .ok j) : figure? (some j) = some v := by
  unfold Decoder.optional at read
  split at read
  · cases read
    cases value
    rfl
  · obtain ⟨x, float, rfl⟩ := ok_of_map read
    obtain ⟨n, v, rfl, known, figure⟩ := float_eq_ok float
    rw [Decoder.value, known] at value
    cases value
    exact figure

theorem hasValue_of_figure {v : Option Float} (read : Decoder.optional .float room s = .ok v) :
    s.HasValue room := by
  unfold Decoder.optional at read
  split at read
  · trivial
  · obtain ⟨x, float, rfl⟩ := ok_of_map read
    obtain ⟨n, v, rfl, known, _⟩ := float_eq_ok float
    exact Option.isSome_of_eq_some known

end

end Gazetteer.Json

namespace Gazetteer

open Json (Decoder RecordField Source get? note? figure?)

namespace Metadata

/-- The metadata known by name are the members of an object: the texts and the number are the
values of their names, and what is absent or null is nothing. -/
structure AgreesWith (m : Metadata) (members : Json.Object) : Prop where
  provider : note? (get? "provider" members) = some m.provider
  confidence : figure? (get? "confidence" members) = some m.confidence
  placeId : note? (get? "place_id" members) = some m.placeId
  placeType : note? (get? "place_type" members) = some m.placeType
  category : note? (get? "category" members) = some m.category

theorem agreesWith_empty : empty.AgreesWith [] := ⟨rfl, rfl, rfl, rfl, rfl⟩

theorem answersTo_iff {f : RecordField Metadata} (h : f ∈ fields) {k : String} :
    f.answersTo k = true ↔ f.name = k := by
  simp [RecordField.answersTo, fields_single f h]

theorem find?_eq_none_iff {k : String} :
    fields.find? (·.answersTo k) = none ↔ k ∉ fields.map RecordField.name := by
  rw [List.find?_eq_none, List.mem_map]
  constructor
  · rintro h ⟨f, hf, named⟩
    exact h f hf ((answersTo_iff hf).2 named)
  · intro h f hf answers
    exact h ⟨f, hf, (answersTo_iff hf).1 answers⟩

theorem hasValue_of_read {room : Nat} : ∀ f ∈ fields, ∀ s put, f.read room s = .ok put →
    s.HasValue room := by
  intro f hf s put read
  simp only [fields, List.mem_cons, List.not_mem_nil, or_false] at hf
  obtain rfl | rfl | rfl | rfl | rfl := hf <;> obtain ⟨v, read, _⟩ := ok_of_map read
  · exact Json.hasValue_of_note read
  · exact Json.hasValue_of_figure read
  · exact Json.hasValue_of_note read
  · exact Json.hasValue_of_note read
  · exact Json.hasValue_of_note read

theorem AgreesWith.passed {m : Metadata} {members : Json.Object} (h : m.AgreesWith members)
    {k : String} (unknown : k ∉ fields.map RecordField.name) (j : Json) :
    m.AgreesWith (Json.insert k j members) := by
  simp only [fields, RecordField.defaulted, List.map_cons, List.map_nil, List.mem_cons,
    List.not_mem_nil, or_false, not_or] at unknown
  obtain ⟨provider, confidence, placeId, placeType, category⟩ := unknown
  constructor <;> rw [Json.get?_insert, if_neg (Ne.symm ‹_›)]
  · exact h.provider
  · exact h.confidence
  · exact h.placeId
  · exact h.placeType
  · exact h.category

theorem AgreesWith.taken {room : Nat} {m : Metadata} {members : Json.Object}
    (h : m.AgreesWith members) {k : String} {f : RecordField Metadata} {s : Source}
    {put : Metadata → Metadata} {j : Json} (known : fields.find? (·.answersTo k) = some f)
    (read : f.read room s = .ok put) (value : Decoder.value room s = .ok j) :
    (put m).AgreesWith (Json.insert k j members) := by
  have hf := List.mem_of_find?_eq_some known
  have answers := List.find?_some known
  obtain rfl := (answersTo_iff hf).1 answers
  -- the names of the fields are different, so each value goes where its field puts what was read
  simp only [fields, List.mem_cons, List.not_mem_nil, or_false] at hf
  obtain rfl | rfl | rfl | rfl | rfl := hf <;> obtain ⟨v, text, rfl⟩ := ok_of_map read
  · have here := Json.note?_of_read text value
    constructor <;> simp [RecordField.defaulted, Json.get?_insert, here, h.confidence, h.placeId,
      h.placeType, h.category]
  · have here := Json.figure?_of_read text value
    constructor <;> simp [RecordField.defaulted, Json.get?_insert, here, h.provider, h.placeId,
      h.placeType, h.category]
  · have here := Json.note?_of_read text value
    constructor <;> simp [RecordField.defaulted, Json.get?_insert, here, h.provider, h.confidence,
      h.placeType, h.category]
  · have here := Json.note?_of_read text value
    constructor <;> simp [RecordField.defaulted, Json.get?_insert, here, h.provider, h.confidence,
      h.placeId, h.category]
  · have here := Json.note?_of_read text value
    constructor <;> simp [RecordField.defaulted, Json.get?_insert, here, h.provider, h.confidence,
      h.placeId, h.placeType]

end Metadata

/-! ## Points -/

namespace GeoPoint

variable {p : GeoPoint}

/-- The metadata are blank, or the text of an object whose members have values, as far as they are
not known by name. -/
def HoldsObject (p : GeoPoint) : Prop :=
  Text.isBlankText p.metadata = true ∨
    ∃ members, (Source.read p.metadata.toList).1 = .object members true ∧
      ∀ k s, (some k, s) ∈ members → k ∉ Metadata.fields.map RecordField.name →
        s.HasValue (Json.maxNesting - 1)

/-- What is read by name of an object agrees with its members, and those are read where the ones
that are not known by name are values. -/
theorem readings_of_record {t : Metadata} {ms : List (Option String × Source)} {closed : Bool}
    (record : Decoder.recordObject Metadata.fields .empty (Json.maxNesting - 1) closed ms = .ok t) :
    ((∃ members, Decoder.object Json.maxNesting (.object ms closed) = .ok members) ↔
        closed = true ∧ ∀ k s, (some k, s) ∈ ms → k ∉ Metadata.fields.map RecordField.name →
          s.HasValue (Json.maxNesting - 1)) ∧
      ∀ members, Decoder.object Json.maxNesting (.object ms closed) = .ok members →
        t.AgreesWith members := by
  obtain ⟨⟨names, acc⟩, fieldsRead, complete⟩ := bind_eq_ok record
  obtain rfl : acc = t := by
    dsimp only at complete
    split at complete <;> cases complete
    rfl
  constructor
  · obtain ⟨whole, others⟩ :=
      Decoder.membersHaveValues_of_read Metadata.hasValue_of_read fieldsRead
    simp only [Metadata.find?_eq_none_iff] at others
    exact Decoder.members_isOk_iff.trans (and_congr_right fun _ => others)
  · intro members object
    exact Decoder.agree_of_read Metadata.AgreesWith
      (fun k j unknown h => h.passed (Metadata.find?_eq_none_iff.1 unknown) j)
      (fun k f s put j known read value h => h.taken known read value)
      fieldsRead object Metadata.agreesWith_empty

/-- Metadata that read by name read as an object too where they hold one, and then as what agrees
with it. -/
theorem metadataObject_of_typed {t : Metadata} (typed : p.typedMetadata = .ok t) :
    ((∃ members, p.metadataObject = .ok members) ↔ p.HoldsObject) ∧
      ∀ members, p.metadataObject = .ok members → t.AgreesWith members := by
  by_cases shown : Text.isBlankText p.metadata = true
  · rw [typedMetadata, if_pos shown] at typed
    rw [metadataObject, if_pos shown]
    cases typed
    refine ⟨iff_of_true ⟨[], rfl⟩ (.inl shown), ?_⟩
    rintro members ⟨⟩
    exact Metadata.agreesWith_empty
  obtain ⟨record, ended⟩ := (typedMetadata_eq_ok_iff shown).1 typed
  simp only [metadataObject_eq_ok_iff shown, and_iff_left ended]
  rw [HoldsObject, or_iff_right shown]
  obtain ⟨ms, closed, source, record⟩ | ⟨items, closed, source⟩ := Decoder.record_eq_ok record
  · obtain ⟨whole, agree⟩ := readings_of_record record
    rw [source]
    refine ⟨whole.trans ?_, agree⟩
    constructor
    · rintro ⟨rfl, others⟩
      exact ⟨ms, rfl, others⟩
    · rintro ⟨_, ⟨⟩, others⟩
      exact ⟨rfl, others⟩
  · rw [source]
    have unread : ¬∃ members,
        Decoder.object Json.maxNesting (.list items closed) = .ok members := by
      rintro ⟨members, object⟩
      obtain ⟨_, _, other, _⟩ := Decoder.object_eq_ok object
      cases other
    refine ⟨iff_of_false unread ?_, fun members object => absurd ⟨members, object⟩ unread⟩
    rintro ⟨members, ⟨⟩, _⟩

end GeoPoint

/-- A copy for a merchant that has no point there is made of metadata that read as an object. -/
theorem Geocoding.copyFor_isOk_iff {p : GeoPoint} (valid : p.draft.Valid) {m : Int}
    (metadata : Option Json.Object) {d : Directory}
    (none : ∀ q ∈ d.tables.pointsOf m, ¬(q.address = p.address ∧ q.source = p.source)) :
    (∃ q d', copyFor m metadata p d = (.ok q, d')) ↔
      ∃ members, p.metadataObject = .ok members := by
  have missing : (d.tables.pointsOf m).find?
      (fun q => q.address == p.address && q.source == p.source) = .none := by
    simpa using none
  rw [copyFor_of_missing missing]
  cases object : p.metadataObject with
  | error e => simp
  | ok members =>
    have checked := copyDraft_check m (withOriginOf members (metadata.getD [])) valid
    dsimp only
    rw [addPoint_eq, Action.guarded_of_ok checked]
    exact iff_of_true ⟨_, _, rfl⟩ ⟨members, rfl⟩

namespace GeoPoint

variable {p : GeoPoint}

/-- Metadata that read by name read as an object where they hold one, and what was read by name are
then the members of that object. A merchant can be placed by every point whose metadata read by
name, and a point is copied for another merchant where they hold an object. -/
theorem readings_agree {t : Metadata} (typed : p.typedMetadata = .ok t) :
    ((∃ members, p.metadataObject = .ok members) ↔ p.HoldsObject) ∧
      (∀ members, p.metadataObject = .ok members → t.AgreesWith members) ∧
      (∀ chain id address d d', Geocoding.link chain (Merchants.job id address) d = (.ok p, d') →
        Merchants.locate chain id address d = (.ok (p, t), d')) ∧
      ∀ m metadata (d : Directory), p.draft.Valid →
        (∀ q ∈ d.tables.pointsOf m, ¬(q.address = p.address ∧ q.source = p.source)) →
          ((∃ q d', Geocoding.copyFor m metadata p d = (.ok q, d')) ↔ p.HoldsObject) := by
  obtain ⟨object, agree⟩ := metadataObject_of_typed typed
  refine ⟨object, agree, ?_, ?_⟩
  · intro chain id address d d' linked
    exact Merchants.locate_of_link linked typed
  · intro m metadata d valid none
    exact (Geocoding.copyFor_isOk_iff valid metadata none).trans object

/-- A text with a provider and a member that is not known by name reads alike in both ways. -/
theorem provider_and_note :
    let p := { (default : GeoPoint) with metadata := "\x7b\"note\":[1],\"provider\":\"walk\"\x7d" }
    ∃ t members, p.typedMetadata = .ok t ∧ p.metadataObject = .ok members ∧
      t.provider = some "walk" ∧ t.AgreesWith members ∧ p.HoldsObject := by
  intro p
  have typed : p.typedMetadata.map Metadata.provider = .ok (some "walk") := by decide +kernel
  have object : p.metadataObject.isOk = true := by decide +kernel
  obtain ⟨t, typed, provider⟩ := ok_of_map typed
  obtain ⟨members, object⟩ := ok_of_isOk object
  obtain ⟨whole, agree, _⟩ := readings_agree typed
  exact ⟨t, members, typed, object, provider, agree members object, whole.1 ⟨members, object⟩⟩

/-- A list gives the provider by position and is no object; and a number that is too large is passed
over by name alone. -/
theorem read_by_name_only :
    let listed := { (default : GeoPoint) with metadata := "[\"walk\"]" }
    let large :=
      { (default : GeoPoint) with metadata := "\x7b\"note\":1e400,\"provider\":\"walk\"\x7d" }
    listed.typedMetadata.map Metadata.provider = .ok (some "walk") ∧
      listed.metadataObject.toOption = none ∧
      large.typedMetadata.map Metadata.provider = .ok (some "walk") ∧
      large.metadataObject.toOption = none := by
  decide +kernel

end GeoPoint

end Gazetteer
