import Gazetteer.Proofs.Readings

/-!
# Metadata written by name

The metadata known by name are written as an object of those that are there. The text is read back
in both ways: as an object it has the members that were written, each with its value, and by name it
agrees with that object, which leaves nothing else for it to be.

* `FloatReadsBack`: a number whose text reads as the number.
* `Decoder.members_of_fit`: the members of a written object, in whatever order they were written.
* `Metadata.value?`: the members that are there.
* `GeoPoint.setMetadata_reads`: metadata that were set are read back.
-/

set_option autoImplicit false

namespace Gazetteer.Json

/-! ## Members in any order -/

theorem Decoder.members_of_fit {room : Nat} {written : Object}
    {ss : List (Option String × Source)} (fit : MembersFit room written)
    (shaped : MembersShaped written ss) (seen : Object) :
    Decoder.members room true seen ss =
      .ok (written.foldl (fun read m => insert m.1 m.2 read) seen) := by
  induction written generalizing ss seen with
  | nil =>
    obtain rfl := shaped
    rfl
  | cons m rest ih =>
    obtain ⟨here, later⟩ := fit
    obtain ⟨s, more, rfl, first, others⟩ := shaped
    rw [Decoder.members, value_of_shaped here first]
    exact ih later others _

theorem foldl_insert_increasing (written : Object) {seen : Object}
    (h : (seen.map Prod.fst).Pairwise (· < ·)) :
    ((written.foldl (fun read m => insert m.1 m.2 read) seen).map Prod.fst).Pairwise (· < ·) := by
  induction written generalizing seen with
  | nil => exact h
  | cons m rest ih => exact ih (insert_increasing m.1 m.2 h)

theorem get?_eq_none {key : String} {members : Object} (h : key ∉ members.map Prod.fst) :
    get? key members = none := by
  induction members with
  | nil => rfl
  | cons m rest ih =>
    obtain ⟨other, later⟩ := not_or.1 (List.mem_cons.not.1 h)
    rw [get?, if_neg other, ih later]

theorem get?_append (key : String) (members more : Object) :
    get? key (members ++ more) = (get? key members).or (get? key more) := by
  induction members with
  | nil => rfl
  | cons m rest ih =>
    rw [List.cons_append, get?, get?, ih]
    split <;> rfl

/-- Where no name is given twice, members that were inserted one after another are all there. -/
theorem get?_foldl_insert (key : String) {written : Object}
    (names : (written.map Prod.fst).Nodup) (seen : Object) :
    get? key (written.foldl (fun read m => insert m.1 m.2 read) seen) =
      (get? key written).or (get? key seen) := by
  induction written generalizing seen with
  | nil => rfl
  | cons m rest ih =>
    obtain ⟨new, names⟩ := List.nodup_cons.1 names
    rw [List.foldl_cons, ih names, get?_insert, get?]
    by_cases same : key = m.1
    · rw [if_pos same, if_pos same, get?_eq_none (same ▸ new)]
      rfl
    · rw [if_neg same, if_neg same]

/-! ## Numbers -/

/-- The text of the number reads as the number. -/
def FloatReadsBack (x : Float) : Prop :=
  Decoder.ofText Decoder.value (render (.float x)) = .ok (.float x)

theorem FloatReadsBack.legible {x : Float} (h : FloatReadsBack x) : Legible (.float x) := by
  obtain ⟨s, read, shaped⟩ := read_render (.float x)
  obtain ⟨value, _⟩ := Decoder.ofText_eq_ok_iff.1 h
  rw [read] at value
  rw [Shaped] at shaped
  split at shaped
  · obtain ⟨l, spelled, rfl⟩ := shaped
    refine ⟨l, ?_, spelled⟩
    dsimp only [Decoder.value, Numeral.value?] at value
    split at value
    · cases value
      assumption
    · cases value
  · rw [shaped, Decoder.value] at value
    cases value

theorem Legible.takes {σ : Type} {x : Float} (h : Legible (.float x)) (name : String)
    (put : Option Float → σ → σ) (room : Nat) :
    (RecordField.defaulted name (.optional .float) put).Takes room (.float x) := by
  intro s shaped
  rw [Shaped] at shaped
  split at shaped
  · obtain ⟨l, spelled, rfl⟩ := shaped
    have value := h.value spelled
    have read : Decoder.float room (.number (.written l)) = .ok x := by
      simp [Decoder.float, Numeral.value?, value]
    refine ⟨put (some x), ?_⟩
    show ((Decoder.float room (.number (.written l))).map some).map put = _
    rw [read]
    rfl
  · rw [shaped]
    exact ⟨_, rfl⟩

end Gazetteer.Json

namespace Gazetteer

open Json (Decoder get? MembersFit Legible FloatReadsBack)

/-! ## The members that are there -/

namespace Metadata

/-- The members that are there, in the order in which they are written. -/
def written (t : Metadata) : Json.Object :=
  member "provider" .text t.provider ++ member "confidence" .float t.confidence ++
    member "place_id" .text t.placeId ++ member "place_type" .text t.placeType ++
    member "category" .text t.category

/-- The value of the member with a name, if it is there. -/
def value? (t : Metadata) (name : String) : Option Json :=
  if name = "provider" then t.provider.map .text
  else if name = "confidence" then t.confidence.map .float
  else if name = "place_id" then t.placeId.map .text
  else if name = "place_type" then t.placeType.map .text
  else if name = "category" then t.category.map .text
  else none

theorem get?_member {α : Type} (key name : String) (f : α → Json) (a : Option α) :
    get? key (member name f a) = if key = name then a.map f else none := by
  cases a with
  | none => exact (ite_self none).symm
  | some a => rfl

theorem get?_written (t : Metadata) (name : String) : get? name t.written = t.value? name := by
  simp only [written, Json.get?_append, get?_member, value?]
  split
  · next same => simp [same]
  · split
    · next same => simp [same]
    · split
      · next same => simp [same]
      · split
        · next same => simp [same]
        · rfl

theorem names_written (t : Metadata) : (t.written.map Prod.fst).Nodup := by
  have name {α : Type} (name : String) (f : α → Json) (a : Option α) :
      ((member name f a).map Prod.fst).Sublist [name] := by
    cases a with
    | none => exact List.nil_sublist _
    | some a => exact .refl _
  have among : (t.written.map Prod.fst).Sublist
      ["provider", "confidence", "place_id", "place_type", "category"] := by
    simp only [written, List.map_append]
    exact ((((name _ _ _).append (name _ _ _)).append (name _ _ _)).append (name _ _ _)).append
      (name _ _ _)
  exact among.nodup (by decide)

theorem mem_member {α : Type} {name : String} {f : α → Json} {a : Option α} {m : String × Json}
    (h : m ∈ member name f a) : ∃ x, a = some x ∧ m = (name, f x) := by
  cases a with
  | none => cases h
  | some x => exact ⟨x, rfl, List.mem_singleton.1 h⟩

section

variable {t : Metadata} (legible : ∀ x, t.confidence = some x → Legible (.float x)) (room : Nat)

include legible

theorem written_fit : MembersFit room t.written := by
  refine Json.membersFit_iff.2 ?_
  intro m hm
  simp only [written, List.mem_append] at hm
  obtain (((h | h) | h) | h) | h := hm <;> obtain ⟨x, there, rfl⟩ := mem_member h
  case inl.inl.inl.inr => exact legible x there
  all_goals trivial

theorem written_taken : ∀ m ∈ t.written, ∀ f, fields.find? (·.answersTo m.1) = some f →
    f.Takes room m.2 := by
  intro m hm f known
  simp only [written, List.mem_append] at hm
  obtain (((h | h) | h) | h) | h := hm <;> obtain ⟨x, there, rfl⟩ := mem_member h <;> cases known
  case inl.inl.inl.inr => exact (legible x there).takes _ _ room
  all_goals exact Json.IsNote.takes (.inr ⟨x, rfl⟩) _ _ room

end

/-- Only one record agrees with the members of another one. -/
theorem AgreesWith.eq_of_values {a t : Metadata} {members : Json.Object}
    (agrees : a.AgreesWith members) (values : ∀ name, get? name members = t.value? name) :
    a = t := by
  have note (v : Option String) : Json.note? (v.map .text) = some v := by cases v <;> rfl
  have figure (v : Option Float) : Json.figure? (v.map .float) = some v := by cases v <;> rfl
  obtain ⟨provider, confidence, placeId, placeType, category⟩ := agrees
  rw [values] at provider confidence placeId placeType category
  obtain ⟨p, c, i, k, g⟩ := a
  cases (note t.provider).symm.trans provider
  cases (figure t.confidence).symm.trans confidence
  cases (note t.placeId).symm.trans placeId
  cases (note t.placeType).symm.trans placeType
  cases (note t.category).symm.trans category
  rfl

end Metadata

/-! ## Points -/

namespace GeoPoint

theorem setMetadata_source (p : GeoPoint) (t : Metadata) :
    Text.isBlankText (p.setMetadata (some t)).metadata = false ∧
      ∃ ss, Json.Source.read (p.setMetadata (some t)).metadata.toList = (.object ss true, []) ∧
        Json.MembersShaped t.written ss := by
  obtain ⟨_, read, ⟨ss, rfl, shaped⟩⟩ := Json.read_render (.object t.written)
  exact ⟨Json.isBlankText_render t.written, ss, read, shaped⟩

section

variable (p : GeoPoint) {t : Metadata} (legible : ∀ x, t.confidence = some x → Legible (.float x))

include legible

/-- Metadata that were set read as an object of the members that are there. -/
theorem setMetadata_object :
    ∃ members, (p.setMetadata (some t)).metadataObject = .ok members ∧
      (members.map Prod.fst).Pairwise (· < ·) ∧ ∀ name, get? name members = t.value? name := by
  obtain ⟨shown, ss, source, shaped⟩ := p.setMetadata_source t
  have object : Decoder.object Json.maxNesting (.object ss true) = _ :=
    Decoder.members_of_fit (Metadata.written_fit legible _) shaped []
  refine ⟨t.written.foldl (fun read m => Json.insert m.1 m.2 read) [],
    (metadataObject_eq_ok_iff (by simp [shown])).2 ⟨?_, ?_⟩,
    Json.foldl_insert_increasing t.written .nil, ?_⟩
  · rw [source]
    exact object
  · rw [source]
    rfl
  · intro name
    rw [Json.get?_foldl_insert name t.names_written, Metadata.get?_written]
    exact Option.or_none

/-- Metadata that were set read as what was set: they read by name, and agree with the object. -/
theorem setMetadata_typed : (p.setMetadata (some t)).typedMetadata = .ok t := by
  obtain ⟨shown, ss, source, shaped⟩ := p.setMetadata_source t
  obtain ⟨a, record⟩ := Decoder.recordObject_of_shaped Metadata.fields_single
    Metadata.fields_leftOut shaped t.names_written (Metadata.written_taken legible _) .empty
  have typed : (p.setMetadata (some t)).typedMetadata = .ok a := by
    refine (typedMetadata_eq_ok_iff (by simp [shown])).2 ⟨?_, ?_⟩
    · rw [source]
      exact record
    · rw [source]
      rfl
  obtain ⟨members, object, _, values⟩ := p.setMetadata_object legible
  have agrees := (metadataObject_of_typed typed).2 members object
  rw [typed, agrees.eq_of_values values]

end

/-- Metadata that were set are read back in both ways, if the number in them reads back, and where
they were cleared nothing is read. -/
theorem setMetadata_reads (p : GeoPoint) {t : Metadata}
    (legible : ∀ x, t.confidence = some x → FloatReadsBack x) :
    (p.setMetadata (some t)).typedMetadata = .ok t ∧
      (∃ members, (p.setMetadata (some t)).metadataObject = .ok members ∧
        (members.map Prod.fst).Pairwise (· < ·) ∧ ∀ name, get? name members = t.value? name) ∧
      (p.setMetadata none).typedMetadata = .ok .empty ∧
      (p.setMetadata none).metadataObject = .ok [] := by
  have legible : ∀ x, t.confidence = some x → Legible (.float x) :=
    fun x there => (legible x there).legible
  exact ⟨p.setMetadata_typed legible, p.setMetadata_object legible, rfl, rfl⟩

/-- Quotes, a backslash, a line end, a character of the second plane, and a number. -/
theorem setMetadata_reads_quotes :
    let t : Metadata := ⟨some "say \"hi\"\\\n", some 0.5, some "𝄞", none, some ""⟩
    let p := (default : GeoPoint).setMetadata (some t)
    p.typedMetadata = .ok t ∧ ∃ members, p.metadataObject = .ok members ∧
      get? "provider" members = some (.text "say \"hi\"\\\n") ∧
      get? "confidence" members = some (.float 0.5) ∧ get? "place_type" members = none := by
  intro t p
  have legible : ∀ x, t.confidence = some x → FloatReadsBack x := by
    intro x there
    cases there
    unfold FloatReadsBack
    rfl
  obtain ⟨typed, ⟨members, object, _, values⟩, _⟩ :=
    GeoPoint.setMetadata_reads (default : GeoPoint) legible
  exact ⟨typed, members, object, values _, values _, values _⟩

end GeoPoint

end Gazetteer
