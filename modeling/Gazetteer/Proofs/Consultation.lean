import Gazetteer.Proofs.Lookups

/-!
# Whom a chain asks

Every provider of a chain has its turn, and before its turn those in front of it were asked. The
chain ends with the first provider that does not fail, so exactly the providers up to that one are
asked, and its answer is the answer of the chain. If all of them fail, the failure of the last one
is reported under its name.

* `Asking`: a provider at its turn.
* `turns`: the turns of a chain, as long as nobody answers.
* `askInOrder_settled`, `askInOrder_exhausted`: the ways in which asking ends.
* `askInOrder_crash`: only a provider that crashes makes the chain crash.
* `asked_in_order`: whom resolving an address asks, and whom saving it asks.
-/

set_option autoImplicit false

namespace Gazetteer.Geocoding

/-! ## Turns -/

/-- A provider at its turn, with everything that was asked before it. -/
structure Asking where
  provider : Provider
  before : List Lookup

namespace Asking

variable (a : Asking) (address : String)

/-- What comes of asking. -/
def outcome : Outcome := (a.provider.answer a.before address).outcome

/-- The record of asking. -/
def lookup : Lookup :=
  ⟨a.provider.name, address, (a.provider.answer a.before address).requests⟩

/-- The provider has no answer. -/
def Fails : Prop := ∃ e, a.outcome address = .failed e

end Asking

/-- The turns of the providers of a chain, each after all those in front of it were asked. -/
def turns (address : String) : List Lookup → List Provider → List Asking
  | _, [] => []
  | before, p :: rest =>
    let a : Asking := ⟨p, before⟩
    a :: turns address (before ++ [a.lookup address]) rest

/-- Every provider has one turn, in the order of the chain. -/
theorem turns_providers (address : String) (before : List Lookup) (chain : List Provider) :
    (turns address before chain).map Asking.provider = chain := by
  induction chain generalizing before with
  | nil => rfl
  | cons p rest ih => exact congrArg (p :: ·) (ih _)

/-- The directory after some turns. -/
def havingAsked (address : String) (asked : List Asking) (d : Directory) : Directory :=
  { d with lookups := d.lookups ++ asked.map fun a => a.lookup address }

theorem havingAsked_nil (address : String) (d : Directory) : havingAsked address [] d = d := by
  rw [havingAsked, List.map_nil, List.append_nil]

theorem havingAsked_append (address : String) (asked more : List Asking) (d : Directory) :
    havingAsked address (asked ++ more) d =
      havingAsked address more (havingAsked address asked d) := by
  rw [havingAsked, havingAsked, havingAsked, List.map_append, List.append_assoc]

/-! ## How asking ends -/

/-- What the outcome of a provider makes of the call, unless it failed. -/
def settled : Outcome → Option (Except Failure GeocodeResult)
  | .resolved r => some (.ok r)
  | .failed _ => none
  | .crashed => some (.error .crash)

variable {address : String} {last : Option (String × LookupFailure)} {chain : List Provider}
  {d : Directory} {p : Provider}

/-- A provider that fails at its turn leaves the address to those behind it. -/
theorem askInOrder_failed {e : LookupFailure}
    (failed : Asking.outcome ⟨p, d.lookups⟩ address = .failed e) :
    askInOrder address last (p :: chain) d =
      askInOrder address (some (p.name, e)) chain (havingAsked address [⟨p, d.lookups⟩] d) := by
  replace failed : (p.answer d.lookups address).outcome = .failed e := failed
  rw [askInOrder, Action.bind_apply, ask]
  simp only [failed]
  rfl

/-- A provider that does not fail at its turn has the last word. -/
theorem askInOrder_ends {r : Except Failure GeocodeResult}
    (ends : settled (Asking.outcome ⟨p, d.lookups⟩ address) = some r) :
    askInOrder address last (p :: chain) d = (r, havingAsked address [⟨p, d.lookups⟩] d) := by
  replace ends : settled (p.answer d.lookups address).outcome = some r := ends
  rw [askInOrder, Action.bind_apply, ask]
  cases answer : (p.answer d.lookups address).outcome with
  | resolved x =>
    rw [answer] at ends
    cases ends
    rfl
  | failed e =>
    rw [answer] at ends
    cases ends
  | crashed =>
    rw [answer] at ends
    cases ends
    rfl

theorem askInOrder_failing (last : Option (String × LookupFailure)) {front others : List Asking}
    (order : turns address d.lookups chain = front ++ others)
    (fails : ∀ f ∈ front, f.Fails address) :
    ∃ seen rest, turns address (havingAsked address front d).lookups rest = others ∧
      askInOrder address last chain d =
        askInOrder address seen rest (havingAsked address front d) := by
  -- each turn is taken where the turns before it have left the directory
  induction front generalizing chain last d with
  | nil => exact ⟨last, chain, by rwa [havingAsked_nil], by rw [havingAsked_nil]⟩
  | cons f front ih =>
    cases chain with
    | nil => cases order
    | cons p rest =>
      obtain ⟨rfl, later⟩ := List.cons.inj order
      obtain ⟨⟨e, failed⟩, fails⟩ := List.forall_mem_cons.1 fails
      rw [askInOrder_failed failed, ← List.singleton_append, havingAsked_append]
      exact ih (d := havingAsked address [⟨p, d.lookups⟩] d) _ later fails

/-- The chain ends with the first provider that does not fail. -/
theorem askInOrder_settled {failing others : List Asking} {a : Asking}
    {r : Except Failure GeocodeResult}
    (order : turns address d.lookups chain = failing ++ a :: others)
    (fails : ∀ f ∈ failing, f.Fails address) (ends : settled (a.outcome address) = some r) :
    askInOrder address last chain d = (r, havingAsked address (failing ++ [a]) d) := by
  obtain ⟨seen, rest, here, left⟩ := askInOrder_failing last order fails
  rw [left, havingAsked_append]
  cases rest with
  | nil => cases here
  | cons p rest =>
    obtain ⟨rfl, -⟩ := List.cons.inj here
    exact askInOrder_ends ends

/-- When all providers fail, the failure is the one of the last. -/
theorem askInOrder_exhausted {front : List Asking} {a : Asking} {e : LookupFailure}
    (order : turns address d.lookups chain = front ++ [a])
    (fails : ∀ f ∈ front, f.Fails address) (failed : a.outcome address = .failed e) :
    askInOrder address last chain d =
      (.error (.lookup (.allFailed a.provider.name e)), havingAsked address (front ++ [a]) d) := by
  obtain ⟨seen, rest, here, left⟩ := askInOrder_failing last order fails
  rw [left, havingAsked_append]
  cases rest with
  | nil => cases here
  | cons p rest =>
    obtain ⟨rfl, none⟩ := List.cons.inj here
    obtain rfl : rest = [] := by
      rw [← turns_providers address _ rest, none, List.map_nil]
    rw [askInOrder_failed failed]
    rfl

/-- A chain crashes only with a provider that does. -/
theorem askInOrder_crash {d' : Directory}
    (h : askInOrder address last chain d = (.error .crash, d')) :
    ∃ p ∈ chain, ∃ asked, (p.answer asked address).outcome = .crashed := by
  induction chain generalizing last d with
  | nil => cases h
  | cons p rest ih =>
    cases answer : (p.answer d.lookups address).outcome with
    | resolved r =>
      have ends : settled (Asking.outcome ⟨p, d.lookups⟩ address) = some (.ok r) :=
        congrArg settled answer
      rw [askInOrder_ends ends] at h
      cases h
    | failed e =>
      rw [askInOrder_failed answer] at h
      obtain ⟨q, hq, crashed⟩ := ih h
      exact ⟨q, List.mem_cons_of_mem p hq, crashed⟩
    | crashed => exact ⟨p, List.mem_cons_self, d.lookups, answer⟩

/-! ## Addresses -/

/-- Nobody is asked about a blank address. About another one the providers are asked one after
another until one does not fail: if it resolves the address, its answer is the answer; if it
crashes, so does the call. If all fail, the failure of the last one is reported under its name;
where there is none, that is reported. Saving the address asks nobody when a point is on record, and
otherwise those that resolving it asks; what they resolved is saved or refused, and nobody else is
asked. -/
theorem asked_in_order (chain : List Provider) (address source : String)
    (metadata : Option Json.Object) (d : Directory) :
    (Text.isBlankText address = true →
      resolve chain address d = (.error (.lookup .emptyAddress), d)) ∧
    (Text.isBlankText address = false →
      let asked := turns address d.lookups chain
      let resolved := resolve chain address d
      let saved := save chain address source metadata d
      asked.map Asking.provider = chain ∧
      (∀ failing a others, asked = failing ++ a :: others → (∀ f ∈ failing, f.Fails address) →
        (∀ r, a.outcome address = .resolved r →
          resolved = (.ok r, havingAsked address (failing ++ [a]) d)) ∧
        (a.outcome address = .crashed →
          resolved = (.error .crash, havingAsked address (failing ++ [a]) d)) ∧
        ∀ e, a.outcome address = .failed e → others = [] →
          resolved = (.error (.lookup (.allFailed a.provider.name e)),
            havingAsked address asked d)) ∧
      (chain = [] → resolved = (.error (.lookup .noProviders), d)) ∧
      ((∃ q ∈ d.tables.points.rows, q.address = address ∧ q.source = source) →
        ∃ p ∈ d.tables.points.rows, (p.address = address ∧ p.source = source) ∧
          saved = (.ok p, d)) ∧
      ((∀ q ∈ d.tables.points.rows, ¬(q.address = address ∧ q.source = source)) →
        saved.2.lookups = resolved.2.lookups ∧
        (∀ e, resolved.1 = .error e → saved = (.error e, resolved.2)) ∧
        ∀ r, resolved.1 = .ok r →
          saved = addPoint (resolvedDraft r address source (metadata.getD [])) resolved.2)) := by
  constructor
  · exact resolve_of_blank
  intro shown asked resolved saved
  have chained : resolved = askInOrder address none chain d := resolve_of_shown chain d shown
  refine ⟨turns_providers address d.lookups chain, ?_, ?_, ?_, ?_⟩
  · intro failing a others order fails
    rw [chained]
    refine ⟨fun r answer => ?_, fun crash => ?_, ?_⟩
    · exact askInOrder_settled order fails (congrArg settled answer)
    · exact askInOrder_settled order fails (congrArg settled crash)
    · rintro e failed rfl
      rw [order]
      exact askInOrder_exhausted order fails failed
  · rintro rfl
    exact chained
  · rintro ⟨q, stored, key⟩
    cases record : d.tables.pointFor? address source with
    | none => exact absurd key (Tables.pointFor?_eq_none_iff.1 record q stored)
    | some p =>
      obtain ⟨mem, same⟩ := Tables.pointFor?_some record
      exact ⟨p, mem, same, save_of_pointFor chain metadata shown record⟩
  · intro none
    have ends : saved = _ :=
      save_of_new chain metadata shown (Tables.pointFor?_eq_none_iff.2 none)
    rw [Action.bind_apply] at ends
    cases answer : resolve chain address d with
    | mk x d' =>
      have asks : resolved = (x, d') := answer
      rw [answer] at ends
      rw [asks, ends]
      cases x with
      | error e =>
        refine ⟨rfl, ?_, ?_⟩
        · rintro _ ⟨⟩
          rfl
        · intro _ same
          cases same
      | ok r =>
        refine ⟨addPoint_lookups _ d', ?_, ?_⟩
        · intro _ same
          cases same
        · rintro _ ⟨⟩
          rfl

/-- The map of the town does not answer, the one of the country does, and the spare one is not asked
any more. -/
theorem second_map_answers :
    let place : GeocodeResult := ⟨116, 39, "house", 80, "", "Main Street 1", "country"⟩
    let town := Provider.fixed "town" [] fun _ => .failed (.status 503)
    let country := Provider.fixed "country" [] fun _ => .resolved place
    let spare := Provider.fixed "spare" [] fun _ => .crashed
    let d := Directory.empty .sqlite default
    Text.isBlankText "Main Street 1" = false ∧
      resolve [town, country, spare] "Main Street 1" d =
        (.ok place, { d with
          lookups := [⟨"town", "Main Street 1", none⟩, ⟨"country", "Main Street 1", none⟩] }) := by
  intro place town country spare d
  have shown : Text.isBlankText "Main Street 1" = false := by decide
  obtain ⟨_, settled, _⟩ :=
    (asked_in_order [town, country, spare] "Main Street 1" "merchant" none d).2 shown
  have fails : ∀ f ∈ [Asking.mk town []], f.Fails "Main Street 1" := by
    intro f hf
    rw [List.mem_singleton.1 hf]
    exact ⟨_, rfl⟩
  exact ⟨shown, (settled [⟨town, []⟩] ⟨country, _⟩ _ rfl fails).1 place rfl⟩

end Gazetteer.Geocoding
