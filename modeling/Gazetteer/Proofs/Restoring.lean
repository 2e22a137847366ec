import Gazetteer.Proofs.NamedMetadata
import Gazetteer.Proofs.Origins
import Gazetteer.Proofs.RecordReading

/-!
# Values that decoders restore

A decoder restores a value from what was written for it when it reads the value from every shape
that states it, in whatever order the members of its objects come. The decoders of plain data do so,
and records do so when each of their fields does: every field puts its own part into the record, so
it does not matter which of them is read first.

* `Stated`: the shape states the value, be it one in memory or one that was written as text.
* `floats`: the floats in a value, whose texts need not read back.
* `Decoder.Restores`: the decoder restores a value from its written form.
* `Decoder.Filled`: the members of an object with what the fields of a record make of them.
* `Decoder.restores_record`, `Decoder.restores_nested`: records are restored.
* `Decoder.Recovers`: the value comes back from what was written, and from the text of it.
-/

set_option autoImplicit false

namespace Gazetteer.Json

/-! ## Shapes that state a value -/

mutual

/-- The shape states the value: its numbers have the values that stand there, and the members of its
objects come in any order. -/
def Stated : Json → Source → Prop
  | .null, s => s = .null
  | .bool b, s => s = .bool b
  | .int n, s => ∃ l, s = .number l ∧ l.value? = some (.int n)
  | .float x, s => ∃ l, s = .number l ∧ l.value? = some (.float x)
  | .text t, s => s = .text (some t)
  | .list items, s => ∃ ss, s = .list ss true ∧ AllStated items ss
  | .object members, s =>
    ∃ ss ordered, s = .object ss true ∧ ss.Perm ordered ∧ MembersStated members ordered

def AllStated : List Json → List Source → Prop
  | [], ss => ss = []
  | x :: rest, ss => ∃ s more, ss = s :: more ∧ Stated x s ∧ AllStated rest more

def MembersStated : List (String × Json) → List (Option String × Source) → Prop
  | [], ss => ss = []
  | (k, v) :: rest, ss => ∃ s more, ss = (some k, s) :: more ∧ Stated v s ∧ MembersStated rest more

end

mutual

/-- The shape of a given value states it. -/
theorem stated_ofJson : ∀ j : Json, Stated j (Source.ofJson j)
  | .null => rfl
  | .bool _ => rfl
  | .int n => ⟨.known (.int n), rfl, rfl⟩
  | .float x => ⟨.known (.float x), rfl, rfl⟩
  | .text _ => rfl
  | .list items => ⟨_, rfl, allStated_ofItems items⟩
  | .object members => ⟨_, _, rfl, .refl _, membersStated_ofMembers members⟩

theorem allStated_ofItems : ∀ items : List Json, AllStated items (Source.ofItems items)
  | [] => rfl
  | x :: rest => ⟨_, _, rfl, stated_ofJson x, allStated_ofItems rest⟩

theorem membersStated_ofMembers : ∀ members : List (String × Json),
    MembersStated members (Source.ofMembers members)
  | [] => rfl
  | (_, v) :: rest => ⟨_, _, rfl, stated_ofJson v, membersStated_ofMembers rest⟩

end

mutual

/-- The text of a value states it as far as its numbers read back. -/
theorem stated_of_shaped : ∀ {j : Json} {s : Source}, j.NumbersLegible → Shaped j s → Stated j s
  | .null, _, _, rfl => rfl
  | .bool _, _, _, rfl => rfl
  | .int n, _, legible, rfl => ⟨_, rfl, Legible.value legible (spelledAs_int n)⟩
  | .float x, _, legible, shaped => by
    rw [Shaped, if_pos (Legible.isFinite legible)] at shaped
    obtain ⟨l, spelled, rfl⟩ := shaped
    exact ⟨_, rfl, Legible.value legible spelled⟩
  | .text _, _, _, rfl => rfl
  | .list _, _, legible, ⟨_, rfl, shaped⟩ => ⟨_, rfl, allStated_of_shaped legible shaped⟩
  | .object _, _, legible, ⟨_, rfl, shaped⟩ =>
    ⟨_, _, rfl, .refl _, membersStated_of_shaped legible shaped⟩

theorem allStated_of_shaped : ∀ {items : List Json} {ss : List Source},
    AllNumbersLegible items → AllShaped items ss → AllStated items ss
  | [], _, _, rfl => rfl
  | _ :: _, _, ⟨first, others⟩, ⟨_, _, rfl, here, later⟩ =>
    ⟨_, _, rfl, stated_of_shaped first here, allStated_of_shaped others later⟩

theorem membersStated_of_shaped : ∀ {members : List (String × Json)}
    {ss : List (Option String × Source)}, MembersNumbersLegible members →
      MembersShaped members ss → MembersStated members ss
  | [], _, _, rfl => rfl
  | (_, _) :: _, _, ⟨first, others⟩, ⟨_, _, rfl, here, later⟩ =>
    ⟨_, _, rfl, stated_of_shaped first here, membersStated_of_shaped others later⟩

end

/-- Only `null` is stated by `null`. -/
theorem not_stated_null {j : Json} (shown : j ≠ .null) : ¬ Stated j .null := by
  cases j with
  | null => exact absurd rfl shown
  | int n => rintro ⟨_, same, -⟩; cases same
  | float x => rintro ⟨_, same, -⟩; cases same
  | list items => rintro ⟨_, same, -⟩; cases same
  | object members => rintro ⟨_, _, same, -⟩; cases same
  | _ => nofun

theorem membersStated_append {members more : Object} {ss : List (Option String × Source)} :
    MembersStated (members ++ more) ss ↔
      ∃ first later, ss = first ++ later ∧ MembersStated members first ∧
        MembersStated more later := by
  induction members generalizing ss with
  | nil =>
    constructor
    · exact fun h => ⟨[], ss, rfl, rfl, h⟩
    · rintro ⟨_, later, rfl, rfl, h⟩
      exact h
  | cons m rest ih =>
    constructor
    · rintro ⟨s, others, rfl, here, h⟩
      obtain ⟨first, later, rfl, inside, behind⟩ := ih.1 h
      exact ⟨_, later, rfl, ⟨s, first, rfl, here, inside⟩, behind⟩
    · rintro ⟨_, later, rfl, ⟨s, first, rfl, here, inside⟩, behind⟩
      exact ⟨s, first ++ later, rfl, here, ih.2 ⟨first, later, rfl, inside, behind⟩⟩

/-- The members of an object are stated under their names. -/
theorem MembersStated.names {members : Object} {ss : List (Option String × Source)}
    (h : MembersStated members ss) : ss.map Prod.fst = members.map (some ∘ Prod.fst) := by
  induction members generalizing ss with
  | nil =>
    obtain rfl := h
    rfl
  | cons m rest ih =>
    obtain ⟨s, more, rfl, _, others⟩ := h
    rw [List.map_cons, List.map_cons, ih others]
    rfl

/-- What stands in the text of an object is one of its members. -/
theorem MembersStated.of_mem {members : Object} {ss : List (Option String × Source)}
    (h : MembersStated members ss) {m : Option String × Source} (hm : m ∈ ss) :
    ∃ k v, m.1 = some k ∧ (k, v) ∈ members ∧ Stated v m.2 := by
  induction members generalizing ss with
  | nil =>
    obtain rfl := h
    cases hm
  | cons first rest ih =>
    obtain ⟨s, more, rfl, here, others⟩ := h
    obtain rfl | hm := List.mem_cons.1 hm
    · exact ⟨first.1, first.2, rfl, List.mem_cons_self, here⟩
    · obtain ⟨k, v, name, old, stated⟩ := ih others hm
      exact ⟨k, v, name, List.mem_cons_of_mem _ old, stated⟩

/-- A value without items and members. -/
def IsPlain : Json → Prop
  | .list _ => False
  | .object _ => False
  | _ => True

/-- A plain value is read from every shape that states it. -/
theorem IsPlain.value {j : Json} (plain : j.IsPlain) {s : Source} (stated : Stated j s)
    (room : Nat) : Decoder.value room s = .ok j := by
  cases j with
  | int n =>
    obtain ⟨l, rfl, value⟩ := stated
    simp only [Decoder.value, value]
  | float x =>
    obtain ⟨l, rfl, value⟩ := stated
    simp only [Decoder.value, value]
  | list items => cases plain
  | object members => cases plain
  | _ =>
    obtain rfl := stated
    rw [Decoder.value]

/-! ## Floats -/

mutual

/-- The floats in a value. -/
def floats : Json → List Float
  | .float x => [x]
  | .list items => itemFloats items
  | .object members => memberFloats members
  | _ => []

def itemFloats : List Json → List Float
  | [] => []
  | x :: rest => x.floats ++ itemFloats rest

def memberFloats : List (String × Json) → List Float
  | [] => []
  | (_, v) :: rest => v.floats ++ memberFloats rest

end

theorem memberFloats_append (members more : Object) :
    memberFloats (members ++ more) = memberFloats members ++ memberFloats more := by
  induction members with
  | nil => rfl
  | cons m rest ih => rw [List.cons_append, memberFloats, memberFloats, ih, List.append_assoc]

theorem itemFloats_map {α : Type} (f : α → Json) (as : List α) :
    itemFloats (as.map f) = as.flatMap fun a => (f a).floats := by
  induction as with
  | nil => rfl
  | cons a rest ih => rw [List.map_cons, itemFloats, ih, List.flatMap_cons]

/-- Every float in the value has a text that reads as the float. -/
def FloatsReadBack (j : Json) : Prop := ∀ x ∈ j.floats, FloatReadsBack x

namespace Decoder

variable {α σ τ : Type} {depth : Nat}

/-! ## Plain data -/

/-- The decoder restores the value `a` from `j`, which was written for it. -/
structure Restores (d : Decoder α) (depth : Nat) (j : Json) (a : α) : Prop where
  /-- Every shape that states what was written is read, where that many lists and objects may be
  nested. -/
  read : ∀ room s, depth ≤ room → Stated j s → d room s = .ok a
  /-- The numbers in it are legible, its floats if they read back. -/
  legible : FloatsReadBack j → j.NumbersLegible

theorem restores_text (t : String) : text.Restores depth (.text t) t where
  read := by
    rintro room _ - rfl
    rfl
  legible _ := trivial

theorem restores_bool (b : Bool) : bool.Restores depth (.bool b) b where
  read := by
    rintro room _ - rfl
    rfl
  legible _ := trivial

theorem restores_int {low high n : Int} (fits : low ≤ n ∧ n ≤ high)
    (word : -2 ^ 63 ≤ n ∧ n < 2 ^ 63) : (int low high).Restores depth (.int n) n where
  read := by
    rintro room _ - ⟨l, rfl, value⟩
    simp only [int, value, if_pos fits]
  legible _ := legible_int word.1 word.2

theorem restores_nat {high n : Nat} (fits : n ≤ high) (word : n < 2 ^ 63) :
    (nat high).Restores depth (.int n) n where
  read := by
    intro room s enough stated
    have whole : (int 0 high).Restores depth (.int n) n :=
      restores_int (by omega) ⟨by omega, by omega⟩
    rw [nat, whole.read room s enough stated]
    rfl
  legible _ := legible_int (by omega) (by omega)

theorem restores_float (x : Float) : float.Restores depth (.float x) x where
  read := by
    rintro room _ - ⟨l, rfl, value⟩
    simp only [float, value]
  legible back := (back x List.mem_cons_self).legible

theorem restores_absent (d : Decoder α) : (optional d).Restores depth .null none where
  read := by
    rintro room _ - rfl
    rfl
  legible _ := trivial

theorem Restores.present {d : Decoder α} {j : Json} {a : α} (h : d.Restores depth j a)
    (shown : j ≠ .null) : (optional d).Restores depth j (some a) where
  read := by
    intro room s enough stated
    rw [optional, h.read room s enough stated]
    · rfl
    · rintro rfl
      exact not_stated_null shown stated
  legible := h.legible

/-- An optional value is restored if what is there is. -/
theorem restores_ofOption {d : Decoder α} {f : α → Json} (o : Option α)
    (each : ∀ a ∈ o, d.Restores depth (f a) a ∧ f a ≠ .null) :
    (optional d).Restores depth (ofOption f o) o := by
  cases o with
  | none => exact restores_absent d
  | some a =>
    obtain ⟨restores, shown⟩ := each a rfl
    exact restores.present shown

/-- A list is restored if its items are. -/
theorem restores_listOf {d : Decoder α} {f : α → Json} {as : List α}
    (each : ∀ a ∈ as, d.Restores depth (f a) a) :
    (listOf d).Restores (depth + 1) (.list (as.map f)) as where
  read := by
    rintro (_ | room) _ enough ⟨ss, rfl, stated⟩
    · exact absurd enough (by omega)
    · show items d room true ss = .ok as
      induction as generalizing ss with
      | nil =>
        obtain rfl := stated
        rfl
      | cons a rest ih =>
        obtain ⟨s, more, rfl, here, others⟩ := stated
        have later := ih (fun b hb => each b (List.mem_cons_of_mem _ hb)) more others
        rw [items, (each a List.mem_cons_self).read room s (by omega) here, later]
        rfl
  legible := by
    intro back
    show AllNumbersLegible (as.map f)
    replace back : ∀ x ∈ itemFloats (as.map f), FloatReadsBack x := back
    induction as with
    | nil => trivial
    | cons a rest ih =>
      obtain ⟨here, others⟩ := List.forall_mem_append.1 back
      exact ⟨(each a List.mem_cons_self).legible here,
        ih (fun b hb => each b (List.mem_cons_of_mem _ hb)) others⟩

/-! ## Fields and what they put into a record -/

/-- The field has one name, the one of the member, and reads its value as the part `put` of a
record. -/
structure Fills (depth : Nat) (f : RecordField σ) (m : String × Json) (put : σ → σ) : Prop where
  name : f.name = m.1
  single : f.others = []
  read : ∀ room s, depth ≤ room → Stated m.2 s → f.read room s = .ok put
  legible : FloatsReadBack m.2 → m.2.NumbersLegible

section

variable {d : Decoder α} {j : Json} {a : α}

/-- A field that reads what is restored is filled by it. -/
theorem Restores.fills (h : d.Restores depth j a) {f : RecordField σ} {put : α → σ → σ}
    (single : f.others = []) (reads : ∀ room s, f.read room s = (d room s).map put) :
    Fills depth f (f.name, j) (put a) where
  name := rfl
  single := single
  read := by
    intro room s enough stated
    rw [reads, h.read room s enough stated]
    rfl
  legible := h.legible

theorem Restores.required (h : d.Restores depth j a) (name : String) (put : α → σ → σ) :
    Fills depth (.required name d put) (name, j) (put a) :=
  h.fills rfl fun _ _ => rfl

theorem Restores.defaulted (h : d.Restores depth j a) (name : String) (put : α → σ → σ) :
    Fills depth (.defaulted name d put) (name, j) (put a) :=
  h.fills rfl fun _ _ => rfl

theorem Restores.nullable {o : Option α} (h : (optional d).Restores depth j o) (name : String)
    (put : Option α → σ → σ) : Fills depth (.nullable name d put) (name, j) (put o) :=
  h.fills rfl fun _ _ => rfl

end

/-- Each field is filled by the member in its place. -/
inductive Filled (depth : Nat) : List (RecordField σ) → Object → List (σ → σ) → Prop where
  | nil : Filled depth [] [] []
  | cons {f : RecordField σ} {m : String × Json} {put : σ → σ} {fields : List (RecordField σ)}
      {members : Object} {puts : List (σ → σ)} :
      Fills depth f m put → Filled depth fields members puts →
        Filled depth (f :: fields) (m :: members) (put :: puts)

/-- All the parts put into a record, one after another. -/
def putAll (puts : List (σ → σ)) (initial : σ) : σ := puts.foldl (fun a put => put a) initial

theorem putAll_perm {puts puts' : List (σ → σ)} (reordered : puts'.Perm puts)
    (commute : puts.Pairwise Function.Commute) (initial : σ) :
    putAll puts' initial = putAll puts initial := by
  have symmetric : Std.Symm (@Function.Commute σ) := ⟨fun _ _ => Function.Commute.symm⟩
  have each : ∀ p ∈ puts, ∀ q ∈ puts, Function.Commute p q :=
    fun p hp q hq => commute.forall_of_forall (fun p _ => .refl p) hp hq
  refine reordered.foldl_eq' ?_ initial
  intro p hp q hq a
  exact each q (reordered.subset hq) p (reordered.subset hp) a

namespace Filled

variable {fields : List (RecordField σ)} {members : Object} {puts : List (σ → σ)}

theorem names (h : Filled depth fields members puts) :
    fields.map (·.name) = members.map Prod.fst := by
  induction h with
  | nil => rfl
  | cons fills _ ih => rw [List.map_cons, List.map_cons, ih, fills.name]

theorem single (h : Filled depth fields members puts) : ∀ f ∈ fields, f.others = [] := by
  induction h with
  | nil => exact nofun
  | cons fills _ ih => exact List.forall_mem_cons.2 ⟨fills.single, ih⟩

theorem legible (h : Filled depth fields members puts)
    (back : FloatsReadBack (.object members)) : (Json.object members).NumbersLegible := by
  show MembersNumbersLegible members
  replace back : ∀ x ∈ memberFloats members, FloatReadsBack x := back
  induction h with
  | nil => trivial
  | cons fills _ ih =>
    obtain ⟨here, others⟩ := List.forall_mem_append.1 back
    exact ⟨fills.legible here, ih others⟩

end Filled

/-! ## Reading the members -/

/-- One of the fields answers to the name of the member, and reads it as `put`. -/
def ReadAs (fields : List (RecordField σ)) (room : Nat) (m : Option String × Source)
    (put : σ → σ) : Prop :=
  ∃ k f, m.1 = some k ∧ fields.find? (·.answersTo k) = some f ∧ f.name = k ∧
    f.read room m.2 = .ok put

/-- Fields with one name each are told apart by it. -/
theorem apart_of_names {fields : List (RecordField σ)} (single : ∀ f ∈ fields, f.others = [])
    (names : (fields.map (·.name)).Nodup) : RecordField.Apart fields := by
  refine (List.pairwise_map.1 names).imp_of_mem fun {f g} hf hg other k answers => ?_
  have named : f.name = k := by simpa [RecordField.answersTo, single f hf] using answers
  have unnamed : g.name ≠ k := fun same => other (named.trans same.symm)
  simpa [RecordField.answersTo, single g hg] using unnamed

theorem find?_name {fields : List (RecordField σ)} (single : ∀ f ∈ fields, f.others = [])
    (names : (fields.map (·.name)).Nodup) {f : RecordField σ} (hf : f ∈ fields) :
    fields.find? (·.answersTo f.name) = some f :=
  (apart_of_names single names).find?_eq hf f.answersTo_name

/-- The members of an object are read by their fields. -/
theorem Filled.readAs {fields all : List (RecordField σ)} {members : Object}
    {puts : List (σ → σ)} (h : Filled depth fields members puts)
    (found : ∀ f ∈ fields, all.find? (·.answersTo f.name) = some f) {room : Nat}
    (enough : depth ≤ room) {ss : List (Option String × Source)}
    (stated : MembersStated members ss) : List.Forall₂ (ReadAs all room) ss puts := by
  induction h generalizing ss with
  | nil =>
    obtain rfl := stated
    exact .nil
  | @cons f m put _ _ _ fills _ ih =>
    obtain ⟨s, more, rfl, here, others⟩ := stated
    have field := found f List.mem_cons_self
    rw [fills.name] at field
    exact .cons ⟨m.1, f, rfl, field, fills.name, fills.read room s enough here⟩
      (ih (fun f hf => found f (List.mem_cons_of_mem _ hf)) others)

theorem readFields_of_readAs {fields : List (RecordField σ)} {room : Nat}
    {ss : List (Option String × Source)} {puts : List (σ → σ)}
    (reads : List.Forall₂ (ReadAs fields room) ss puts) (names : (ss.map Prod.fst).Nodup)
    {seen : List String} (fresh : ∀ k ∈ seen, some k ∉ ss.map Prod.fst) (acc : σ) :
    ∃ told, readFields fields room true seen acc ss = .ok (told, putAll puts acc) ∧
      ∀ k, k ∈ told ↔ k ∈ seen ∨ some k ∈ ss.map Prod.fst := by
  induction reads generalizing seen acc with
  | nil => exact ⟨seen, rfl, by simp⟩
  | @cons m put more puts here _ ih =>
    obtain ⟨name, s⟩ := m
    obtain ⟨k, f, rfl, known, rfl, read⟩ := here
    obtain ⟨new, names⟩ := List.nodup_cons.1 names
    have once : seen.contains f.name = false := by
      have unseen : f.name ∉ seen := fun old => fresh _ old List.mem_cons_self
      simpa using unseen
    have later : ∀ k ∈ f.name :: seen, some k ∉ more.map Prod.fst :=
      List.forall_mem_cons.2 ⟨new, fun k old => fun hk => fresh k old (List.mem_cons_of_mem _ hk)⟩
    obtain ⟨told, others, mem⟩ := ih names later (put acc)
    refine ⟨told, ?_, ?_⟩
    · rw [readFields, known]
      simp only [once, Bool.false_eq_true, if_false, read]
      exact others
    · intro k
      rw [mem, List.map_cons, List.mem_cons, List.mem_cons, Option.some_inj]
      tauto

/-- Members in any order are read into the record that they were written for. -/
theorem Filled.recordObject {fields : List (RecordField σ)} {members : Object}
    {puts : List (σ → σ)} (h : Filled depth fields members puts)
    (names : (fields.map (·.name)).Nodup) (commute : puts.Pairwise Function.Commute) {room : Nat}
    (enough : depth ≤ room) {ss ordered : List (Option String × Source)}
    (reordered : ss.Perm ordered) (stated : MembersStated members ordered) (initial : σ) :
    recordObject fields initial room true ss = .ok (putAll puts initial) := by
  have given : (ordered.map Prod.fst) = fields.map (some ∘ (·.name)) := by
    rw [stated.names, ← List.map_map, ← h.names, List.map_map]
  have nodup : (ss.map Prod.fst).Nodup := by
    rw [(reordered.map _).nodup_iff, given, ← List.map_map]
    exact names.map (Option.some_injective _)
  obtain ⟨puts', reads, moved⟩ := List.perm_comp_forall₂ reordered
    (h.readAs (fun f hf => find?_name h.single names hf) enough stated)
  have fresh : ∀ k ∈ ([] : List String), some k ∉ ss.map Prod.fst := nofun
  obtain ⟨told, read, mem⟩ := readFields_of_readAs reads nodup fresh initial
  have complete : complete fields told = true := by
    rw [Decoder.complete, List.all_eq_true]
    intro f hf
    have named : some f.name ∈ ss.map Prod.fst := by
      rw [(reordered.map _).mem_iff, given]
      exact List.mem_map.2 ⟨f, hf, rfl⟩
    simp [(mem f.name).2 (.inr named)]
  rw [Decoder.recordObject, read]
  exact (if_pos complete).trans (congrArg Except.ok (putAll_perm moved commute initial))

/-- A record is restored whose fields are filled. -/
theorem restores_record {fields : List (RecordField σ)} {members : Object} {puts : List (σ → σ)}
    (h : Filled depth fields members puts) (names : (fields.map (·.name)).Nodup)
    (commute : puts.Pairwise Function.Commute) (initial : σ) :
    (record fields initial).Restores (depth + 1) (.object members) (putAll puts initial) where
  read := by
    rintro (_ | room) _ enough ⟨ss, ordered, rfl, reordered, stated⟩
    · exact absurd enough (by omega)
    · exact h.recordObject names commute (by omega) reordered stated initial
  legible := h.legible

/-! ## A record inside another one -/

/-- One of the fields answers to the name of the member. -/
def known (fields : List (RecordField σ)) (m : Option String × Source) : Bool :=
  m.1.any fun k => fields.any (·.answersTo k)

theorem known_of_readAs {fields : List (RecordField σ)} {room : Nat} {m : Option String × Source}
    {put : σ → σ} (h : ReadAs fields room m put) : known fields m = true := by
  obtain ⟨k, f, name, found, -⟩ := h
  rw [known, name]
  have answers : f.answersTo k = true := by simpa using List.find?_some found
  exact List.any_eq_true.2 ⟨f, List.mem_of_find?_eq_some found, answers⟩

theorem known_of_readAll {fields : List (RecordField σ)} {room : Nat}
    {ss : List (Option String × Source)} {puts : List (σ → σ)}
    (reads : List.Forall₂ (ReadAs fields room) ss puts) : ∀ m ∈ ss, known fields m = true := by
  induction reads with
  | nil => exact nofun
  | cons here _ ih => exact List.forall_mem_cons.2 ⟨known_of_readAs here, ih⟩

/-- No field answers to the names of others. -/
theorem known_eq_false {fields : List (RecordField σ)} (single : ∀ f ∈ fields, f.others = [])
    {members : Object} {ss : List (Option String × Source)} (stated : MembersStated members ss)
    (others : ∀ m ∈ members, m.1 ∉ fields.map (·.name)) : ∀ m ∈ ss, known fields m = false := by
  intro m hm
  obtain ⟨k, v, name, old, -⟩ := stated.of_mem hm
  rw [known, name]
  refine List.any_eq_false.2 fun f hf answers => others _ old ?_
  exact List.mem_map.2 ⟨f, hf, RecordField.name_of_answersTo (single f hf) answers⟩

section

variable {fields : List (RecordField σ)} {first later : List (Option String × Source)}
  (foreign : ∀ m ∈ first, known fields m = false) (mine : ∀ m ∈ later, known fields m = true)

include foreign mine

theorem filter_known : (first ++ later).filter (known fields) = later := by
  rw [List.filter_append, List.filter_eq_nil_iff.2 (by simpa using foreign),
    List.filter_eq_self.2 mine, List.nil_append]

theorem filter_not_known : ((first ++ later).filter fun m => !known fields m) = first := by
  rw [List.filter_append, List.filter_eq_self.2 (by simpa using foreign),
    List.filter_eq_nil_iff.2 (by simpa using mine), List.append_nil]

end

/-- The members that the outer record knows are read into it, and the others are kept. -/
theorem splitFields_of_readAs {fields : List (RecordField σ)} {room : Nat}
    {ss : List (Option String × Source)} {puts : List (σ → σ)}
    (reads : List.Forall₂ (ReadAs fields room) (ss.filter (known fields)) puts)
    (plain : ∀ m ∈ ss, known fields m = false → ∃ k v, m.1 = some k ∧ value room m.2 = .ok v)
    (names : (ss.map Prod.fst).Nodup) {seen : List String}
    (fresh : ∀ k ∈ seen, some k ∉ ss.map Prod.fst) (acc : σ) :
    splitFields fields room true seen acc ss =
      .ok (putAll puts acc, ss.filter fun m => !known fields m) := by
  induction ss generalizing seen acc puts with
  | nil =>
    cases reads
    rfl
  | cons m more ih =>
    obtain ⟨name, s⟩ := m
    obtain ⟨new, distinct⟩ := List.nodup_cons.1 names
    have later := fun m hm => plain m (List.mem_cons_of_mem _ hm)
    have unseen : ∀ k ∈ seen, some k ∉ more.map Prod.fst :=
      fun k old hk => fresh k old (List.mem_cons_of_mem _ hk)
    cases mine : known fields (name, s) with
    | true =>
      rw [List.filter_cons_of_pos mine] at reads
      cases reads with | @cons _ put _ puts here others => ?_
      obtain ⟨k, f, rfl, found, rfl, read⟩ := here
      have once : seen.contains f.name = false := by
        have first : f.name ∉ seen := fun old => fresh _ old List.mem_cons_self
        simpa using first
      have rest := ih others later distinct
        (List.forall_mem_cons.2 ⟨new, unseen⟩ : ∀ k ∈ f.name :: seen, _) (put acc)
      rw [splitFields, found]
      simp only [once, Bool.false_eq_true, if_false, read, List.filter_cons, mine, Bool.not_true]
      exact rest
    | false =>
      rw [List.filter_cons_of_neg (by simp [mine])] at reads
      obtain ⟨k, v, rfl, value⟩ := plain _ List.mem_cons_self mine
      have missing : fields.find? (·.answersTo k) = none := by
        simpa [known] using mine
      rw [splitFields, missing, List.filter_cons_of_pos (by simp [mine])]
      simp only [value, ih reads later distinct unseen acc]
      rfl

section

variable {outer : List (RecordField σ)} {inner : List (RecordField τ)}
  {outerMembers innerMembers : Object} {outerPuts : List (σ → σ)} {innerPuts : List (τ → τ)}

/-- The members of both records together are split: those of the outer one are read, and those of
the inner one are left. -/
theorem Filled.splitFields (filled : Filled depth outer outerMembers outerPuts)
    (names : (innerMembers.map Prod.fst ++ outer.map (·.name)).Nodup)
    (commute : outerPuts.Pairwise Function.Commute) (plain : ∀ m ∈ innerMembers, m.2.IsPlain)
    {room : Nat} (enough : depth ≤ room) {ss ordered : List (Option String × Source)}
    (reordered : ss.Perm ordered) (stated : MembersStated (innerMembers ++ outerMembers) ordered)
    (initial : σ) : ∃ kept within,
      splitFields outer room true [] initial ss = .ok (putAll outerPuts initial, kept) ∧
        kept.Perm within ∧ MembersStated innerMembers within := by
  obtain ⟨-, outerNames, different⟩ := List.nodup_append.1 names
  have distinct : (ss.map Prod.fst).Nodup := by
    rw [(reordered.map _).nodup_iff, stated.names, ← List.map_map, List.map_append,
      ← filled.names]
    exact names.map (Option.some_injective _)
  obtain ⟨first, later, rfl, within, around⟩ := membersStated_append.1 stated
  have foreign : ∀ m ∈ first, known outer m = false :=
    known_eq_false filled.single within fun m hm named =>
      different _ (List.mem_map_of_mem hm) _ named rfl
  have reads := filled.readAs (fun f hf => find?_name filled.single outerNames hf) enough around
  have mine := known_of_readAll reads
  have taken : (ss.filter (known outer)).Perm later :=
    (reordered.filter _).trans (.of_eq (filter_known foreign mine))
  have kept : (ss.filter fun m => !known outer m).Perm first :=
    (reordered.filter _).trans (.of_eq (filter_not_known foreign mine))
  have passed : ∀ m ∈ ss, known outer m = false →
      ∃ k v, m.1 = some k ∧ value room m.2 = .ok v := by
    intro m hm other
    have inside : m ∈ first := kept.subset (List.mem_filter.2 ⟨hm, by simp [other]⟩)
    obtain ⟨k, v, name, old, stated⟩ := within.of_mem inside
    exact ⟨k, v, name, (plain _ old).value stated room⟩
  obtain ⟨puts, reads, moved⟩ := List.perm_comp_forall₂ taken reads
  have fresh : ∀ k ∈ ([] : List String), some k ∉ ss.map Prod.fst := nofun
  have split := splitFields_of_readAs reads passed distinct fresh initial
  rw [putAll_perm moved commute] at split
  exact ⟨_, first, split, kept, within⟩

/-- A record is restored whose members stand behind those of a record inside it, if the members of
that one are plain. -/
theorem restores_nested (outerFilled : Filled depth outer outerMembers outerPuts)
    (innerFilled : Filled depth inner innerMembers innerPuts)
    (names : (inner.map (·.name) ++ outer.map (·.name)).Nodup)
    (outerCommute : outerPuts.Pairwise Function.Commute)
    (innerCommute : innerPuts.Pairwise Function.Commute)
    (plain : ∀ m ∈ innerMembers, m.2.IsPlain) (initial : σ) (inside : τ) (put : τ → σ → σ) :
    (nested outer initial inner inside put).Restores (depth + 1)
      (.object (innerMembers ++ outerMembers))
      (put (putAll innerPuts inside) (putAll outerPuts initial)) where
  read := by
    rintro (_ | room) _ enough ⟨ss, ordered, rfl, reordered, stated⟩
    · exact absurd enough (by omega)
    replace enough : depth ≤ room := by omega
    have innerNames := (List.nodup_append.1 names).1
    obtain ⟨kept, within, split, moved, stated⟩ := outerFilled.splitFields
      (innerFilled.names ▸ names) outerCommute plain enough reordered stated initial
    have record := innerFilled.recordObject innerNames innerCommute enough moved stated inside
    rw [nested, split]
    exact congrArg (· >>= fun t => Except.ok (put t (putAll outerPuts initial))) record
  legible back := by
    replace back : ∀ x ∈ memberFloats (innerMembers ++ outerMembers), FloatReadsBack x := back
    rw [memberFloats_append] at back
    obtain ⟨within, around⟩ := List.forall_mem_append.1 back
    exact membersNumbersLegible_iff.2 (List.forall_mem_append.2
      ⟨membersNumbersLegible_iff.1 (innerFilled.legible within),
        membersNumbersLegible_iff.1 (outerFilled.legible around)⟩)

end

/-! ## Whole values and texts -/

/-- The value `a` is read back from `j`, which was written for it. -/
structure Recovers (d : Decoder α) (j : Json) (a : α) : Prop where
  /-- From what was written, as it is. -/
  value : ofJson d j = .ok a
  /-- From every shape that states it, whatever the order of the members of its objects. -/
  stated : ∀ s, Stated j s → d maxNesting s = .ok a
  /-- From its text, if the texts of its floats read back. -/
  text : FloatsReadBack j → ofText d (render j) = .ok a

theorem Restores.recovers {d : Decoder α} {j : Json} {a : α} (h : d.Restores depth j a)
    (enough : depth ≤ maxNesting) : d.Recovers j a where
  value := h.read _ _ enough (stated_ofJson j)
  stated s := h.read _ s enough
  text back := by
    obtain ⟨s, source, shaped⟩ := read_render j
    refine ofText_eq_ok_iff.2 ⟨?_, ?_⟩
    · rw [source]
      exact h.read _ s enough (stated_of_shaped (h.legible back) shaped)
    · rw [source]
      rfl

end Decoder

end Gazetteer.Json
