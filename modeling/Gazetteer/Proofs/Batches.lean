import Gazetteer.Proofs.Consultation
import Gazetteer.Proofs.ReadBack
import Gazetteer.Proofs.Visits

/-!
# Addresses in a batch

A batch looks for its addresses one after another, and each look is made where the looks before it
have left the directory. What was found once stays on record, so an address that comes again is
found again, and nobody is asked.

* `Visit.found?`: the point that a look finds.
* `save_crash`: a look crashes only with a provider.
* `Batched.answer`, `batchVisits_addresses`: what a batch answers.
* `Batched.again`: an address that was found before.
* `Gained`: the points that looks add.
* `batch_gathers`: a batch, whatever its providers answer.
-/

set_option autoImplicit false

namespace Gazetteer

/-! ## Checks -/

theorem require_error {holds : Bool} {cause : Invalid} {e : Failure}
    (h : require holds cause = .error e) : e = .validation cause := by
  cases holds with
  | false =>
    cases h
    rfl
  | true => cases h

theorem require_bind_error {α : Type} {holds : Bool} {cause : Invalid}
    {f : Unit → Except Failure α} {e : Failure} (h : (require holds cause >>= f) = .error e) :
    e = .validation cause ∨ f () = .error e := by
  cases holds with
  | false =>
    cases h
    exact .inl rfl
  | true => exact .inr h

/-- A draft is refused as invalid and for no other reason. -/
theorem GeoPointDraft.check_error {draft : GeoPointDraft} {e : Failure}
    (h : draft.check = .error e) : ∃ cause, e = .validation cause := by
  obtain rfl | h := require_bind_error h
  · exact ⟨_, rfl⟩
  obtain rfl | h := require_bind_error h
  · exact ⟨_, rfl⟩
  obtain rfl | h := require_bind_error h
  · exact ⟨_, rfl⟩
  exact ⟨_, require_error h⟩

theorem Tables.pointFor?_insertPoint_eq_none {e : Engine} {t : Tables} {p : GeoPoint}
    {address source : String} (key : p.source = source) :
    (t.insertPoint e p).2.pointFor? address source = none ↔
      t.pointFor? address source = none ∧ p.address ≠ address := by
  rw [pointFor?_insertPoint, Option.or_eq_none_iff]
  refine and_congr_right fun _ => ?_
  simp [key]

namespace Geocoding

variable {d d' : Directory} {chain : List Provider} {address source : String}
  {metadata : Option Json.Object}

/-! ## A look -/

/-- The point that a look finds. -/
def Visit.found? (v : Visit) : Option GeoPoint := v.outcome.1.toOption

theorem Visit.found?_eq_some {v : Visit} {p : GeoPoint} :
    v.found? = some p ↔ v.outcome.1 = .ok p := by
  rw [found?]
  cases v.outcome.1 <;> simp [Except.toOption]

/-- A look crashes only with a provider. -/
theorem save_crash (h : save chain address source metadata d = (.error .crash, d')) :
    ∃ p ∈ chain, ∃ asked, (p.answer asked address).outcome = .crashed := by
  cases shown : Text.isBlankText address with
  | true =>
    rw [save_of_blank metadata shown] at h
    cases h
  | false =>
    cases record : d.tables.pointFor? address source with
    | some p =>
      rw [save_of_pointFor chain metadata shown record] at h
      cases h
    | none =>
      rw [save_of_new chain metadata shown record, Action.bind_apply,
        resolve_of_shown chain d shown] at h
      cases answer : askInOrder address none chain d with
      | mk x d₁ =>
        rw [answer] at h
        cases x with
        | error e =>
          cases h
          exact askInOrder_crash answer
        | ok r =>
          replace h : addPoint _ d₁ = (.error .crash, d') := h
          rw [addPoint_eq] at h
          obtain ⟨cause, invalid⟩ := GeoPointDraft.check_error (Action.guarded_eq_error h).1
          cases invalid

/-- A point on record stays on record for its address and source. -/
theorem Saved.keeps_record {m : Json.Object} {r : Except Failure GeoPoint × Directory}
    (saved : Saved address source m d r) {a s : String} {q : GeoPoint}
    (record : d.tables.pointFor? a s = some q) : r.2.tables.pointFor? a s = some q := by
  cases saved with
  | refused e ls => exact record
  | onRecord p _ => exact record
  | added answer ls r _ _ made =>
    subst made
    show (d.tables.insertPoint d.engine _).2.pointFor? a s = _
    rw [Tables.pointFor?_insertPoint, record]
    rfl

/-- The point that is answered is on record. -/
theorem Saved.recorded {m : Json.Object} {p : GeoPoint}
    (saved : Saved address source m d (.ok p, d')) :
    ∃ q, d'.tables.pointFor? address source = some q ∧ q.valued = p.valued := by
  cases saved with
  | onRecord _ record => exact ⟨p, record, rfl⟩
  | added answer ls r new _ made =>
    subst made
    refine ⟨_, ?_, Tables.valued_keptPoint (e := d.engine) _⟩
    show (d.tables.insertPoint d.engine _).2.pointFor? address source = _
    rw [Tables.pointFor?_insertPoint, new]
    exact if_pos ⟨rfl, rfl⟩

/-! ## The looks of a batch -/

namespace Batched

variable {addresses : List String} {r : Except Failure (List GeoPoint) × Directory}
  {vs : List Visit}

theorem alike (h : Batched chain source addresses d r vs) :
    ∀ v ∈ vs, v = ⟨chain, v.address, source, none, v.before⟩ := by
  induction h with
  | done d => exact fun _ hv => nomatch hv
  | blank _ ih => exact ih
  | found _ _ ih => exact List.forall_mem_cons.2 ⟨rfl, ih⟩
  | passed _ _ ih => exact List.forall_mem_cons.2 ⟨rfl, ih⟩
  | crashed _ => exact List.forall_mem_cons.2 ⟨rfl, fun _ hv => nomatch hv⟩

/-- A batch answers what its looks find, if no provider crashes. -/
theorem answer (h : Batched chain source addresses d r vs)
    (calm : ∀ v ∈ vs, v.outcome.1 ≠ .error .crash) : r.1 = .ok (vs.filterMap Visit.found?) := by
  induction h with
  | done d => rfl
  | blank _ ih => exact ih calm
  | @found address rest d d₁ p r vs saved _ ih =>
    have first : Visit.found? ⟨chain, address, source, none, d⟩ = some p := by
      rw [Visit.found?, Visit.outcome, saved]
      rfl
    rw [ih (List.forall_mem_cons.1 calm).2, List.filterMap_cons_some first]
    rfl
  | @passed address rest d d₁ e r vs failed _ ih =>
    have first : Visit.found? ⟨chain, address, source, none, d⟩ = none := by
      rw [Visit.found?, Visit.outcome, failed]
      rfl
    rw [ih (List.forall_mem_cons.1 calm).2, List.filterMap_cons_none first]
  | crashed failed => exact absurd (by rw [Visit.outcome, failed]) (calm _ List.mem_cons_self)

/-- What is on record at the beginning is on record at every look. -/
theorem known (h : Batched chain source addresses d r vs) {a : String} {q : GeoPoint}
    (record : d.tables.pointFor? a source = some q) :
    ∀ v ∈ vs, v.before.tables.pointFor? a source = some q := by
  have kept {address : String} {d : Directory} {x : Except Failure GeoPoint × Directory}
      (saved : save chain address source none d = x)
      (record : d.tables.pointFor? a source = some q) :
      x.2.tables.pointFor? a source = some q :=
    saved ▸ (save_saved chain address source none d).keeps_record record
  induction h with
  | done d => exact fun _ hv => nomatch hv
  | blank _ ih => exact ih record
  | found saved _ ih => exact List.forall_mem_cons.2 ⟨record, ih (kept saved record)⟩
  | passed failed _ ih => exact List.forall_mem_cons.2 ⟨record, ih (kept failed record)⟩
  | crashed _ => exact List.forall_mem_cons.2 ⟨record, fun _ hv => nomatch hv⟩

/-- An address that was found before is found again, and the look leaves everything as it is. -/
theorem again (h : Batched chain source addresses d r vs) :
    vs.Pairwise fun v w => v.address = w.address → ∀ p, v.outcome.1 = .ok p →
      ∃ q, w.outcome = (.ok q, w.before) ∧ q.valued = p.valued := by
  induction h with
  | done d => exact .nil
  | blank _ ih => exact ih
  | @found address rest d d₁ p r vs saved others ih =>
    refine .cons ?_ ih
    rintro w hw rfl _ answered
    rw [Visit.outcome, saved] at answered
    cases answered
    have once := save_saved chain w.address source none d
    rw [saved] at once
    obtain ⟨q, record, value⟩ := once.recorded
    have shown : Text.isBlankText w.address = false := by
      rw [Bool.eq_false_iff]
      intro blank
      rw [save_of_blank none blank] at saved
      cases saved
    refine ⟨q, ?_, value⟩
    rw [others.alike w hw]
    exact save_of_pointFor chain none shown (others.known record w hw)
  | passed failed _ ih =>
    refine .cons ?_ ih
    intro w _ _ p answered
    rw [Visit.outcome, failed] at answered
    cases answered
  | crashed _ => exact List.pairwise_singleton _ _

end Batched

/-- The looks are for the addresses that are not blank, in their order, if no provider crashes. -/
theorem batchVisits_addresses {addresses : List String}
    (calm : ∀ v ∈ batchVisits chain source addresses d, v.outcome.1 ≠ .error .crash) :
    (batchVisits chain source addresses d).map Visit.address =
      addresses.filter fun a => !Text.isBlankText a := by
  induction addresses generalizing d with
  | nil => rfl
  | cons address rest ih =>
    rw [batchVisits] at calm ⊢
    cases blank : Text.isBlankText address with
    | true =>
      rw [blank, if_pos rfl] at calm
      rw [if_pos rfl, List.filter_cons_of_neg (by simp [blank])]
      exact ih calm
    | false =>
      rw [blank, if_neg Bool.false_ne_true] at calm
      rw [if_neg Bool.false_ne_true, List.filter_cons_of_pos (by simp [blank])]
      simp only [Visit.outcome] at calm ⊢
      cases saved : save chain address source none d with
      | mk x d₁ =>
        rw [saved] at calm
        cases x with
        | ok p => exact congrArg (address :: ·) (ih (List.forall_mem_cons.1 calm).2)
        | error e =>
          cases e with
          | crash =>
            have here := List.forall_mem_singleton.1 calm
            dsimp only at here
            rw [saved] at here
            exact absurd rfl here
          | _ => exact congrArg (address :: ·) (ih (List.forall_mem_cons.1 calm).2)

/-! ## What looks add -/

/-- The looks make one directory of another by adding points, one for each address that was found
though nothing was on record for it at first. -/
structure Gained (source : String) (visits : List Visit) (d d' : Directory)
    (new : List GeoPoint) : Prop where
  rows : d'.tables.points.rows = d.tables.points.rows ++ new
  last : d'.tables.points.last = d.tables.points.last + new.length
  others : d' = { d with
    lookups := d'.lookups, tables := { d.tables with points := d'.tables.points } }
  fresh : ∀ q ∈ new, q.source = source ∧ q.merchant = none
  answered : ∀ q ∈ new, ∃ v ∈ visits, ∃ p, v.found? = some p ∧ q.valued = p.valued
  distinct : (new.map GeoPoint.address).Nodup
  missed : ∀ a, a ∈ new.map GeoPoint.address ↔
    d.tables.pointFor? a source = none ∧ ∃ v ∈ visits, v.address = a ∧ v.found?.isSome = true

namespace Gained

variable {vs : List Visit} {new : List GeoPoint}

theorem nothing (source : String) (d : Directory) : Gained source [] d d [] where
  rows := (List.append_nil _).symm
  last := (Int.add_zero _).symm
  others := rfl
  fresh := fun _ h => nomatch h
  answered := fun _ h => nomatch h
  distinct := .nil
  missed := by
    intro a
    constructor
    · intro h
      cases h
    · rintro ⟨_, v, hv, _⟩
      cases hv

/-- A look that adds nothing finds nothing, or finds what was on record. -/
theorem idle {v : Visit} {d₁ : Directory} (others : d₁ = { d with lookups := d₁.lookups })
    (found : v.found?.isSome = true → d.tables.pointFor? v.address source ≠ none)
    (h : Gained source vs d₁ d' new) : Gained source (v :: vs) d d' new := by
  have tables : d₁.tables = d.tables := by rw [others]
  refine ⟨tables ▸ h.rows, tables ▸ h.last, by rw [h.others, others], h.fresh, ?_, h.distinct, ?_⟩
  · intro q hq
    obtain ⟨w, hw, stands⟩ := h.answered q hq
    exact ⟨w, List.mem_cons_of_mem v hw, stands⟩
  · intro a
    rw [h.missed a, tables]
    refine and_congr_right fun missing => ?_
    rw [List.exists_mem_cons_iff]
    refine (or_iff_right ?_).symm
    rintro ⟨rfl, isSome⟩
    exact found isSome missing

theorem add {v : Visit} {d₁ d' : Directory} {p : GeoPoint}
    (missing : d.tables.pointFor? v.address source = none)
    (found : v.found? = some (d.tables.insertPoint d.engine p).1)
    (key : p.address = v.address ∧ p.source = source) (free : p.merchant = none)
    (added : d₁ = { d with
      lookups := d₁.lookups, tables := (d.tables.insertPoint d.engine p).2 })
    (h : Gained source vs d₁ d' new) :
    Gained source (v :: vs) d d'
      (d.engine.keptPoint (d.tables.insertPoint d.engine p).1 :: new) where
  rows := by
    rw [h.rows, added, List.append_cons]
    rfl
  last := by
    rw [h.last, added, List.length_cons]
    show d.tables.points.last + 1 + (new.length : Int) = _
    omega
  others := by
    rw [h.others, added]
    rfl
  fresh := List.forall_mem_cons.2 ⟨⟨key.2, free⟩, h.fresh⟩
  answered := by
    refine List.forall_mem_cons.2
      ⟨⟨v, List.mem_cons_self, _, found, Tables.valued_keptPoint (e := d.engine) _⟩, ?_⟩
    intro q hq
    obtain ⟨w, hw, stands⟩ := h.answered q hq
    exact ⟨w, List.mem_cons_of_mem v hw, stands⟩
  distinct := by
    refine List.nodup_cons.2 ⟨?_, h.distinct⟩
    -- the point is on record for the looks after this one, so they add none for its address
    intro twice
    have again := ((h.missed _).1 twice).1
    rw [added] at again
    exact ((Tables.pointFor?_insertPoint_eq_none key.2).1 again).2 rfl
  missed := by
    intro a
    have here : (d.engine.keptPoint (d.tables.insertPoint d.engine p).1).address = v.address :=
      key.1
    rw [List.map_cons, List.mem_cons, h.missed a, List.exists_mem_cons_iff, here, added,
      Tables.pointFor?_insertPoint_eq_none key.2, key.1]
    by_cases same : v.address = a
    · refine iff_of_true (.inl same.symm) ⟨same ▸ missing, .inl ⟨same, ?_⟩⟩
      rw [found]
      rfl
    · have other : a ≠ v.address := Ne.symm same
      simp only [same, other, false_or, false_and, not_false_eq_true, and_true, ne_eq]

theorem cons {x : Except Failure GeoPoint × Directory}
    (saved : save chain address source none d = x) (h : Gained source vs x.2 d' new) :
    ∃ new, Gained source (⟨chain, address, source, none, d⟩ :: vs) d d' new := by
  let v : Visit := ⟨chain, address, source, none, d⟩
  have found : v.found? = x.1.toOption := by rw [Visit.found?, Visit.outcome, saved]
  have once := save_saved chain address source none d
  rw [saved] at once
  cases once with
  | refused e ls =>
    refine ⟨new, Gained.idle (v := v) rfl ?_ h⟩
    rw [found]
    intro none
    cases none
  | onRecord p record =>
    refine ⟨new, h.idle (v := v) rfl ?_⟩
    intro _ none
    cases record.symm.trans none
  | added answer ls r missing _ made =>
    subst made
    exact ⟨_, h.add (v := v) missing found ⟨rfl, rfl⟩ rfl rfl⟩

end Gained

theorem Batched.gained {addresses : List String}
    {r : Except Failure (List GeoPoint) × Directory} {vs : List Visit}
    (h : Batched chain source addresses d r vs) : ∃ new, Gained source vs d r.2 new := by
  induction h with
  | done d => exact ⟨[], .nothing source d⟩
  | blank _ ih => exact ih
  | found saved _ ih =>
    obtain ⟨new, others⟩ := ih
    exact others.cons saved
  | passed failed _ ih =>
    obtain ⟨new, others⟩ := ih
    exact others.cons failed
  | @crashed _ _ _ d₁ failed => exact (Gained.nothing source d₁).cons failed

/-! ## Whole batches -/

/-- Each address that is not blank is looked for where the looks before it have left the directory,
and as long as no provider crashes the batch answers, in their order, the points that were found. An
address that was found once is found whenever it comes again: the point is the same, its numbers
taken by their value, nobody is asked and nothing changes. One point is added for each address that
nothing was on record for at first and that was found in the end, and nothing else is different but
the record of what was asked. -/
theorem batch_gathers (chain : List Provider) (source : String) (addresses : List String)
    (d : Directory) :
    let visits := batchVisits chain source addresses d
    let answer := (batch chain source addresses d).1
    let after := (batch chain source addresses d).2
    ((∀ p ∈ chain, ∀ asked a, (p.answer asked a).outcome ≠ .crashed) →
      ∀ v ∈ visits, v.outcome.1 ≠ .error .crash) ∧
    ((∀ v ∈ visits, v.outcome.1 ≠ .error .crash) →
      visits.map Visit.address = addresses.filter (fun a => !Text.isBlankText a) ∧
      answer = .ok (visits.filterMap Visit.found?)) ∧
    visits.Pairwise (fun v w => v.address = w.address → ∀ p, v.found? = some p →
      ∃ q, w.outcome = (.ok q, w.before) ∧ q.valued = p.valued) ∧
    after.lookups = d.lookups ++ visits.flatMap Visit.asked ∧
    ∃ new : List GeoPoint,
      after = { d with
        lookups := after.lookups, tables := { d.tables with points := after.tables.points } } ∧
      after.tables.points.rows = d.tables.points.rows ++ new ∧
      after.tables.points.last = d.tables.points.last + new.length ∧
      (∀ q ∈ new, q.source = source ∧ q.merchant = none ∧
        ∃ v ∈ visits, ∃ p, v.found? = some p ∧ q.valued = p.valued) ∧
      (new.map GeoPoint.address).Nodup ∧
      ∀ a, a ∈ new.map GeoPoint.address ↔
        (∀ q ∈ d.tables.points.rows, ¬(q.address = a ∧ q.source = source)) ∧
        ∃ v ∈ visits, v.address = a ∧ v.found?.isSome = true := by
  intro visits answer after
  have batched := batch_batched chain source addresses d
  obtain ⟨new, gained⟩ := batched.gained
  refine ⟨?_, fun calm => ⟨batchVisits_addresses calm, batched.answer calm⟩, ?_,
    batched.explains.lookups, new, gained.others, gained.rows, gained.last, ?_, gained.distinct, ?_⟩
  · intro calm v hv crash
    rw [batched.alike v hv] at crash
    obtain ⟨p, hp, asked, crashed⟩ := save_crash (Prod.ext crash rfl)
    exact calm p hp asked _ crashed
  · refine batched.again.imp ?_
    intro v w again same p found
    exact again same p (Visit.found?_eq_some.1 found)
  · intro q hq
    obtain ⟨source, free⟩ := gained.fresh q hq
    exact ⟨source, free, gained.answered q hq⟩
  · intro a
    rw [gained.missed a, Tables.pointFor?_eq_none_iff]

/-- A map that fails at first finds the street when it comes again, and is not asked the third
time. -/
example :
    let place : GeocodeResult := ⟨116, 39, "house", 80, "", "Main Street 1", "map"⟩
    let map : Provider := ⟨"map", fun asked _ =>
      ⟨if asked = [] then .failed (.status 503) else .resolved place, none⟩⟩
    let street := "Main Street 1"
    let (answer, after) :=
      batch [map] "batch" [street, " ", street, street] (.empty .sqlite default)
    answer.map (List.map GeoPoint.id) = .ok [1, 1] ∧ after.lookups.length = 2 ∧
      after.tables.points.rows.map GeoPoint.address = [street] := by
  decide +kernel

end Geocoding

end Gazetteer
