import Gazetteer.Proofs.MetadataReading

/-!
# Which members are read into a record

The members of an object are read into a record one after another, each by the field that answers to
its name. Where no name is one of two fields, it can be told for each field apart what it takes to
read the members, and what the record then holds of it.

* `RecordField.given`, `RecordField.Reads`: the members that a field answers to, and whether it can
  read them.
* `RecordField.Apart`: fields that do not answer to each other's names.
* `Decoder.readFields_isOk_iff`: which members are read into a record.
* `Decoder.told_of_readFields`: what a record holds after its members were read.
-/

set_option autoImplicit false

namespace Gazetteer.Json

/-! ## Members that a field answers to -/

/-- The members with one of these names. -/
def Source.membersNamed (names : List String) (ms : List (Option String × Source)) :
    List (Option String × Source) :=
  ms.filter fun m => m.1.any names.contains

namespace RecordField

variable {σ : Type} {f g : RecordField σ} {fields : List (RecordField σ)} {room : Nat}
  {ms : List (Option String × Source)} {k : String} {s : Source}

/-- The members that a field answers to. -/
def given (f : RecordField σ) (ms : List (Option String × Source)) :
    List (Option String × Source) :=
  Source.membersNamed (f.name :: f.others) ms

/-- There is nothing for the field to read, or one value, and that it reads. -/
def Reads (f : RecordField σ) (room : Nat) (ms : List (Option String × Source)) : Prop :=
  f.given ms = [] ∨ ∃ m put, f.given ms = [m] ∧ f.read room m.2 = .ok put

theorem reads_congr {more : List (Option String × Source)} (h : f.given more = f.given ms) :
    f.Reads room more ↔ f.Reads room ms := by
  rw [Reads, Reads, h]

/-- No name is one of two fields. -/
def Apart (fields : List (RecordField σ)) : Prop :=
  fields.Pairwise fun f g => ∀ k, f.answersTo k = true → g.answersTo k = false

theorem answersTo_eq (f : RecordField σ) (k : String) :
    f.answersTo k = (f.name :: f.others).contains k := by
  rw [answersTo, List.contains_cons, BEq.comm]

theorem answersTo_name (f : RecordField σ) : f.answersTo f.name = true := by
  simp [answersTo]

theorem given_cons_of_answers (h : f.answersTo k = true) (s : Source)
    (ms : List (Option String × Source)) :
    f.given ((some k, s) :: ms) = (some k, s) :: f.given ms := by
  rw [answersTo_eq] at h
  simp only [given, Source.membersNamed, List.filter_cons, Option.any_some, h, if_true]

theorem given_cons_of_not (h : f.answersTo k = false) :
    f.given ((some k, s) :: ms) = f.given ms := by
  rw [answersTo_eq] at h
  simp only [given, Source.membersNamed, List.filter_cons, Option.any_some, h,
    Bool.false_eq_true, if_false]

/-- The field that answers to a name is the one found for it. -/
theorem Apart.find?_eq (apart : Apart fields) (hf : f ∈ fields) (h : f.answersTo k = true) :
    fields.find? (·.answersTo k) = some f := by
  induction fields with
  | nil => cases hf
  | cons g rest ih =>
    obtain ⟨first, later⟩ := List.pairwise_cons.1 apart
    rcases List.mem_cons.1 hf with rfl | hf
    · simp only [List.find?_cons, h]
    · have other : g.answersTo k = false := by
        by_contra both
        have := first f hf k (by simpa using both)
        simp [h] at this
      simp only [List.find?_cons, other, ih later hf]

/-- Two fields of one name are the same. -/
theorem Apart.eq_of_name (apart : Apart fields) (hf : f ∈ fields) (hg : g ∈ fields)
    (h : f.answersTo k = true) (h' : g.answersTo k = true) : f = g :=
  Option.some.inj ((apart.find?_eq hf h).symm.trans (apart.find?_eq hg h'))

end RecordField

namespace Decoder

open RecordField

variable {σ β : Type} {fields : List (RecordField σ)} {f : RecordField σ} {room : Nat}
  {closed : Bool} {seen : List String} {acc : σ} {ms : List (Option String × Source)}
  {r : List String × σ}

/-- What it takes to read members into a record of which the fields `seen` are read already: the
object is closed, all members have names, those that no field answers to are whole, and a field has
at most one, which it reads and which is its first. -/
structure Legible (fields : List (RecordField σ)) (room : Nat) (closed : Bool) (seen : List String)
    (ms : List (Option String × Source)) : Prop where
  closed : closed = true
  named : ∀ m ∈ ms, m.1.isSome = true
  whole : ∀ k s, (some k, s) ∈ ms → fields.find? (·.answersTo k) = none → s.isWhole = true
  reads : ∀ f ∈ fields, f.Reads room ms
  fresh : ∀ f ∈ fields, f.given ms ≠ [] → f.name ∉ seen

theorem legible_nil : Legible fields room closed seen [] ↔ closed = true where
  mp h := h.closed
  mpr h := ⟨h, nofun, nofun, fun _ _ => .inl rfl, fun _ _ present => absurd rfl present⟩

/-- A member that no field answers to has to be whole. -/
theorem legible_cons_unknown {k : String} {s : Source}
    (unknown : fields.find? (·.answersTo k) = none) :
    Legible fields room closed seen ((some k, s) :: ms) ↔
      s.isWhole = true ∧ Legible fields room closed seen ms := by
  have passed : ∀ f ∈ fields, f.given ((some k, s) :: ms) = f.given ms := by
    intro f hf
    exact given_cons_of_not (by simpa using List.find?_eq_none.1 unknown f hf)
  constructor
  · intro h
    refine ⟨h.whole k s List.mem_cons_self unknown, h.closed,
      fun m hm => h.named m (List.mem_cons_of_mem _ hm),
      fun k' s' hm => h.whole k' s' (List.mem_cons_of_mem _ hm), fun f hf => ?_, fun f hf => ?_⟩
    · exact (reads_congr (passed f hf)).1 (h.reads f hf)
    · simpa only [passed f hf] using h.fresh f hf
  · rintro ⟨here, h⟩
    refine ⟨h.closed, ?_, ?_, fun f hf => ?_, fun f hf => ?_⟩
    · simpa using h.named
    · intro k' s' hm unknown'
      rcases List.mem_cons.1 hm with same | later
      · cases same
        exact here
      · exact h.whole k' s' later unknown'
    · exact (reads_congr (passed f hf)).2 (h.reads f hf)
    · simpa only [passed f hf] using h.fresh f hf

/-- A member that a field reads has to be its first, and the field may have no other. -/
theorem legible_cons_known (apart : Apart fields) {k : String} {s : Source} {put : σ → σ}
    (known : fields.find? (·.answersTo k) = some f) (read : f.read room s = .ok put) :
    Legible fields room closed seen ((some k, s) :: ms) ↔
      f.name ∉ seen ∧ Legible fields room closed (f.name :: seen) ms := by
  have hf : f ∈ fields := List.mem_of_find?_eq_some known
  have answers : f.answersTo k = true := by simpa using List.find?_some known
  have here := given_cons_of_answers answers s ms
  have others : ∀ g ∈ fields, g ≠ f → g.answersTo k = false := by
    intro g hg other
    by_contra both
    exact other (apart.eq_of_name hg hf (by simpa using both) answers)
  have names : ∀ g ∈ fields, g ≠ f → g.name ≠ f.name := by
    intro g hg other same
    exact other (apart.eq_of_name hg hf g.answersTo_name (same ▸ f.answersTo_name))
  constructor
  · intro h
    have alone : f.given ms = [] := by
      rcases h.reads f hf with absent | ⟨m, _, one, -⟩
      · rw [here] at absent
        cases absent
      · rw [here] at one
        exact (List.cons.inj one).2
    refine ⟨h.fresh f hf (by simp [here]), h.closed,
      fun m hm => h.named m (List.mem_cons_of_mem _ hm),
      fun k' s' hm => h.whole k' s' (List.mem_cons_of_mem _ hm), fun g hg => ?_,
      fun g hg present => ?_⟩
    · by_cases same : g = f
      · exact .inl (same ▸ alone)
      · exact (reads_congr (given_cons_of_not (others g hg same))).1 (h.reads g hg)
    · have other : g ≠ f := fun same => present (same ▸ alone)
      have old := h.fresh g hg (by rwa [given_cons_of_not (others g hg other)])
      simpa only [List.mem_cons, not_or] using ⟨names g hg other, old⟩
  · rintro ⟨new, h⟩
    have alone : f.given ms = [] := by
      by_contra present
      exact h.fresh f hf present List.mem_cons_self
    refine ⟨h.closed, ?_, ?_, fun g hg => ?_, fun g hg present => ?_⟩
    · simpa using h.named
    · intro k' s' hm unknown
      rcases List.mem_cons.1 hm with same | later
      · cases same
        cases known.symm.trans unknown
      · exact h.whole k' s' later unknown
    · by_cases same : g = f
      · subst same
        exact .inr ⟨_, put, by rw [here, alone], read⟩
      · exact (reads_congr (given_cons_of_not (others g hg same))).2 (h.reads g hg)
    · by_cases same : g = f
      · exact same ▸ new
      · rw [given_cons_of_not (others g hg same)] at present
        exact fun old => h.fresh g hg present (List.mem_cons_of_mem _ old)

/-- A member that its field cannot read spoils the object. -/
theorem not_legible_cons {k : String} {s : Source} {e : Fault}
    (known : fields.find? (·.answersTo k) = some f) (fails : f.read room s = .error e) :
    ¬ Legible fields room closed seen ((some k, s) :: ms) := by
  intro h
  have answers : f.answersTo k = true := by simpa using List.find?_some known
  have here := given_cons_of_answers answers s ms
  rcases h.reads f (List.mem_of_find?_eq_some known) with absent | ⟨m, put, one, read⟩
  · rw [here] at absent
    cases absent
  · rw [here] at one
    obtain rfl := (List.cons.inj one).1
    cases fails.symm.trans read

/-- The members are read into a record where they are legible. -/
theorem readFields_isOk_iff (apart : Apart fields) (acc : σ) :
    (∃ r, readFields fields room closed seen acc ms = .ok r) ↔
      Legible fields room closed seen ms := by
  induction ms generalizing seen acc with
  | nil => cases closed <;> simp [readFields, legible_nil]
  | cons m ms ih =>
    obtain ⟨name, s⟩ := m
    cases name with
    | none =>
      refine iff_of_false ?_ fun h => ?_
      · rintro ⟨_, read⟩
        cases read
      · simpa using h.named _ List.mem_cons_self
    | some k =>
      rw [readFields]
      cases known : fields.find? (·.answersTo k) with
      | none =>
        rw [legible_cons_unknown known, ← ih acc]
        by_cases whole : s.isWhole = true <;> simp [whole]
      | some f =>
        cases read : f.read room s with
        | error e =>
          refine iff_of_false ?_ (not_legible_cons known read)
          rintro ⟨r, ok⟩
          simp only [read] at ok
          split at ok <;> cases ok
        | ok put =>
          rw [legible_cons_known apart known read, ← ih (put acc)]
          by_cases old : f.name ∈ seen
          · simp [old]
          · simp only [List.contains_eq_mem, old, decide_false, Bool.false_eq_true, if_false,
              not_false_iff, true_and, read]
            exact Iff.rfl

/-- What a record holds of a field after its members were read: what the field put there, or what
was there in the beginning. -/
theorem told_of_readFields (apart : Apart fields) (hf : f ∈ fields) {part : σ → β} {b : β}
    (others : ∀ g ∈ fields, g ≠ f → ∀ s put a, g.read room s = .ok put →
      part (put a) = part a)
    (own : ∀ m ∈ f.given ms, ∀ put a, f.read room m.2 = .ok put → part (put a) = b)
    (h : readFields fields room closed seen acc ms = .ok r) :
    part r.2 = if f.given ms = [] then part acc else b := by
  induction ms generalizing seen acc with
  | nil => cases closed <;> cases h; rfl
  | cons m ms ih =>
    obtain ⟨name, s⟩ := m
    cases name with
    | none => cases h
    | some k =>
      rw [readFields] at h
      cases known : fields.find? (·.answersTo k) with
      | none =>
        have passed : f.given ((some k, s) :: ms) = f.given ms :=
          given_cons_of_not (by simpa using List.find?_eq_none.1 known f hf)
        rw [passed] at own ⊢
        simp only [known] at h
        split at h
        · exact ih own h
        · cases h
      | some g =>
        simp only [known] at h
        split at h
        · cases h
        obtain ⟨put, read, h⟩ := bind_eq_ok h
        have hg : g ∈ fields := List.mem_of_find?_eq_some known
        have answers : g.answersTo k = true := by simpa using List.find?_some known
        by_cases same : g = f
        · subst same
          rw [given_cons_of_answers answers] at own ⊢
          have put_here := own _ List.mem_cons_self put acc read
          rw [ih (fun m hm => own m (List.mem_cons_of_mem _ hm)) h, put_here]
          simp
        · have passed : f.given ((some k, s) :: ms) = f.given ms := by
            refine given_cons_of_not ?_
            by_contra both
            exact same (apart.eq_of_name hg hf answers (by simpa using both))
          rw [passed] at own ⊢
          rw [ih own h, others g hg same s put acc read]

/-- What a record holds of a field that one member was read by. -/
theorem told_of_one (apart : Apart fields) (hf : f ∈ fields) {part : σ → β}
    (others : ∀ g ∈ fields, g ≠ f → ∀ s put a, g.read room s = .ok put →
      part (put a) = part a)
    (h : readFields fields room closed seen acc ms = .ok r) {m : Option String × Source} {b : β}
    {put : σ → σ} (one : f.given ms = [m]) (read : f.read room m.2 = .ok put)
    (sets : ∀ a, part (put a) = b) : part r.2 = b := by
  rw [told_of_readFields apart hf others ?_ h, one, if_neg (List.cons_ne_nil _ _)]
  intro m' hm put' a read'
  rw [one, List.mem_singleton] at hm
  subst hm
  cases read.symm.trans read'
  exact sets a

/-- What a record holds of a field that no member was read by. -/
theorem told_of_none (apart : Apart fields) (hf : f ∈ fields) {part : σ → β}
    (others : ∀ g ∈ fields, g ≠ f → ∀ s put a, g.read room s = .ok put →
      part (put a) = part a)
    (h : readFields fields room closed seen acc ms = .ok r) (absent : f.given ms = []) :
    part r.2 = part acc := by
  rw [told_of_readFields (b := part acc) apart hf others (by simp [absent]) h, if_pos absent]

/-- A field that had a member is among those that were read. -/
theorem name_mem_of_readFields (apart : Apart fields) (hf : f ∈ fields)
    (h : readFields fields room closed seen acc ms = .ok r)
    (read : f.name ∈ seen ∨ f.given ms ≠ []) : f.name ∈ r.1 := by
  induction ms generalizing seen acc with
  | nil =>
    cases closed <;> cases h
    exact read.resolve_right fun present => present rfl
  | cons m ms ih =>
    obtain ⟨name, s⟩ := m
    cases name with
    | none => cases h
    | some k =>
      rw [readFields] at h
      cases known : fields.find? (·.answersTo k) with
      | none =>
        rw [given_cons_of_not (by simpa using List.find?_eq_none.1 known f hf)] at read
        simp only [known] at h
        split at h
        · exact ih h read
        · cases h
      | some g =>
        simp only [known] at h
        split at h
        · cases h
        obtain ⟨put, -, h⟩ := bind_eq_ok h
        refine ih h ?_
        by_cases answers : f.answersTo k = true
        · obtain rfl := Option.some.inj (known.symm.trans (apart.find?_eq hf answers))
          exact .inl List.mem_cons_self
        · rw [given_cons_of_not (by simpa using answers)] at read
          exact read.imp_left (List.mem_cons_of_mem _)

end Decoder

end Gazetteer.Json
