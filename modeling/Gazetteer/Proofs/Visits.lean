import Gazetteer.Proofs.Coherence

/-!
# When providers are asked

The points on record are looked through for an address and a source before a provider is asked. So a
provider is asked only when there is no such point, whatever the providers answered before.

* `Visit`: a look for the point of an address and a source.
* `Visit.asked_of_known`: nobody is asked when there is one.
* `Batched`: what can come of a batch, with its looks.
* `Command.visits`, `Step.visits`: the looks of a call and of a step, one after another.
* `Explains`, `Step.take_explained`: whatever is asked is asked on one of them.
* `cache_coherent`: steps from an empty directory.
-/

set_option autoImplicit false

namespace Gazetteer

namespace Geocoding

/-! ## A look for a point -/

/-- A look for the point of an address and a source, and the directory in which it is made. -/
structure Visit where
  chain : List Provider
  address : String
  source : String
  metadata : Option Json.Object
  before : Directory

namespace Visit

/-- What comes of it. -/
def outcome (v : Visit) : Except Failure GeoPoint × Directory :=
  save v.chain v.address v.source v.metadata v.before

/-- What providers are asked on it. -/
def asked (v : Visit) : List Lookup := v.outcome.2.lookups.drop v.before.lookups.length

/-- The point is of the address and the source. -/
def Seeks (v : Visit) (p : GeoPoint) : Prop := p.address = v.address ∧ p.source = v.source

end Visit

/-- The look that a job makes. -/
def visit (chain : List Provider) (job : Job) (d : Directory) : Visit :=
  ⟨chain, job.address, job.source, job.metadata, d⟩

/-- What is asked between the directories is asked about the address. -/
def AsksAbout (address : String) (d d' : Directory) : Prop :=
  ∃ ls, d'.lookups = d.lookups ++ ls ∧ ∀ l ∈ ls, l.address = address

variable {d : Directory}

theorem AsksAbout.of_eq {address : String} {d' : Directory} (h : d'.lookups = d.lookups) :
    AsksAbout address d d' :=
  ⟨[], h.trans (List.append_nil _).symm, fun _ h => nomatch h⟩

theorem askInOrder_about (address : String) (last : Option (String × LookupFailure))
    (chain : List Provider) (d : Directory) :
    AsksAbout address d (askInOrder address last chain d).2 := by
  induction chain generalizing last d with
  | nil => exact .of_eq rfl
  | cons p rest ih =>
    let l : Lookup := ⟨p.name, address, (p.answer d.lookups address).requests⟩
    have once : AsksAbout address d { d with lookups := d.lookups ++ [l] } := by
      refine ⟨[l], rfl, ?_⟩
      intro l' hl
      rw [List.mem_singleton.1 hl]
    rw [askInOrder, Action.bind_apply, ask]
    cases (p.answer d.lookups address).outcome with
    | resolved r => exact once
    | crashed => exact once
    | failed e =>
      obtain ⟨ls, others, about⟩ := ih (some (p.name, e)) { d with lookups := d.lookups ++ [l] }
      exact ⟨l :: ls, others.trans (List.append_assoc ..), List.forall_mem_cons.2 ⟨rfl, about⟩⟩

theorem resolve_about (chain : List Provider) (address : String) (d : Directory) :
    AsksAbout address d (resolve chain address d).2 := by
  rw [resolve, Action.bind_apply, Action.ofExcept_apply]
  cases requireAddress address with
  | error e => exact .of_eq rfl
  | ok _ => exact askInOrder_about address none chain d

theorem save_about (chain : List Provider) (address source : String)
    (metadata : Option Json.Object) (d : Directory) :
    AsksAbout address d (save chain address source metadata d).2 := by
  rw [save, Action.bind_apply, Action.ofExcept_apply]
  cases requireAddress address with
  | error e => exact .of_eq rfl
  | ok _ =>
    simp only [Action.bind_apply, Action.read_apply]
    cases d.tables.pointFor? address source with
    | some p => exact .of_eq rfl
    | none =>
      have asked := resolve_about chain address d
      simp only [Action.bind_apply]
      cases hr : resolve chain address d with
      | mk r d₁ =>
        rw [hr] at asked
        cases r with
        | error e => exact asked
        | ok answer =>
          obtain ⟨ls, grown, about⟩ := asked
          exact ⟨ls, (addPoint_lookups _ d₁).trans grown, about⟩

/-- Nobody is asked for a point that is on record. -/
theorem save_known {chain : List Provider} {address source : String}
    {metadata : Option Json.Object} {p : GeoPoint}
    (known : d.tables.pointFor? address source = some p) :
    (save chain address source metadata d).2 = d := by
  rw [save, Action.bind_apply, Action.ofExcept_apply]
  cases requireAddress address with
  | error e => rfl
  | ok _ =>
    simp only [Action.bind_apply, Action.read_apply, known]
    rfl

namespace Visit

theorem lookups (v : Visit) : v.outcome.2.lookups = v.before.lookups ++ v.asked := by
  obtain ⟨ls, grown, _⟩ := save_about v.chain v.address v.source v.metadata v.before
  rw [asked, outcome, grown, List.drop_left]

theorem asked_about (v : Visit) : ∀ l ∈ v.asked, l.address = v.address := by
  obtain ⟨ls, grown, about⟩ := save_about v.chain v.address v.source v.metadata v.before
  rw [asked, outcome, grown, List.drop_left]
  exact about

theorem asked_of_known (v : Visit) {p : GeoPoint} (stored : p ∈ v.before.tables.points.rows)
    (sought : v.Seeks p) : v.asked = [] := by
  cases known : v.before.tables.pointFor? v.address v.source with
  | none => exact absurd sought (Tables.pointFor?_eq_none_iff.1 known p stored)
  | some q =>
    rw [asked, outcome, save_known known]
    exact List.drop_length

end Visit

/-! ## The looks of a call -/

/-- Whatever is asked between the directories is asked on one of the looks, one after another, and
each look is made where points of one address and source lie at one place. -/
structure Explains (visits : List Visit) (d d' : Directory) : Prop where
  lookups : d'.lookups = d.lookups ++ visits.flatMap Visit.asked
  coherent : d.tables.Coherent → ∀ v ∈ visits, v.before.tables.Coherent

namespace Explains

variable {d' : Directory}

theorem nothing (h : d'.lookups = d.lookups) : Explains [] d d' :=
  ⟨h.trans (List.append_nil _).symm, fun _ _ h => nomatch h⟩

/-- One look, at the beginning. -/
theorem one {v : Visit} (before : v.before = d) (h : d'.lookups = v.outcome.2.lookups) :
    Explains [v] d d' where
  lookups := by
    rw [h, v.lookups, before, List.flatMap_singleton]
  coherent := by
    intro coherent w hw
    rw [List.mem_singleton.1 hw, before]
    exact coherent

theorem cons {v : Visit} {vs : List Visit} (before : v.before = d)
    (rest : Explains vs v.outcome.2 d') : Explains (v :: vs) d d' where
  lookups := by
    rw [rest.lookups, v.lookups, before, List.flatMap_cons, List.append_assoc]
  coherent := by
    intro coherent
    have first : v.before.tables.Coherent := before ▸ coherent
    have saved := save_saved v.chain v.address v.source v.metadata v.before
    exact List.forall_mem_cons.2 ⟨first, rest.coherent (saved.coherent first)⟩

end Explains

theorem copyFor_lookups (merchant : Int) (metadata : Option Json.Object) (p : GeoPoint) :
    (copyFor merchant metadata p d).2.lookups = d.lookups := by
  cases own : (d.tables.pointsOf merchant).find?
    fun q => q.address == p.address && q.source == p.source with
  | some q => rw [copyFor_of_own own]
  | none =>
    rw [copyFor_of_missing own]
    cases p.metadataObject with
    | error e => rfl
    | ok recorded => exact addPoint_lookups _ d

theorem link_lookups (chain : List Provider) (job : Job) (d : Directory) :
    (link chain job d).2.lookups = (visit chain job d).outcome.2.lookups := by
  rw [link, Action.bind_apply, Visit.outcome, visit]
  cases save chain job.address job.source job.metadata d with
  | mk r d' =>
    cases r with
    | error e => rfl
    | ok p =>
      cases job.merchant with
      | none => rfl
      | some m =>
        cases hp : p.merchant with
        | none =>
          simp only [hp]
          rfl
        | some holder =>
          simp only [hp]
          by_cases own : holder = m
          · rw [if_pos own]
            rfl
          · rw [if_neg own]
            exact copyFor_lookups m job.metadata p

theorem link_explained (chain : List Provider) (job : Job) (d : Directory) :
    Explains [visit chain job d] d (link chain job d).2 :=
  .one rfl (link_lookups chain job d)

/-! ## The looks of a batch -/

/-- The looks of a batch. A crash of a provider ends it. -/
def batchVisits (chain : List Provider) (source : String) : List String → Directory → List Visit
  | [], _ => []
  | address :: rest, d =>
    if Text.isBlankText address then batchVisits chain source rest d
    else
      let v : Visit := ⟨chain, address, source, none, d⟩
      match v.outcome with
      | (.error .crash, _) => [v]
      | (_, d') => v :: batchVisits chain source rest d'

/-- What can come of a batch, with the looks that it makes: an address is blank and passed over, is
found, is not found, or a provider crashes over it. -/
inductive Batched (chain : List Provider) (source : String) : List String → Directory →
    Except Failure (List GeoPoint) × Directory → List Visit → Prop
  | done (d : Directory) : Batched chain source [] d (.ok [], d) []
  | blank {address : String} {rest : List String} {d : Directory}
    {r : Except Failure (List GeoPoint) × Directory} {vs : List Visit}
    (others : Batched chain source rest d r vs) : Batched chain source (address :: rest) d r vs
  | found {address : String} {rest : List String} {d d₁ : Directory} {p : GeoPoint}
    {r : Except Failure (List GeoPoint) × Directory} {vs : List Visit}
    (saved : save chain address source none d = (.ok p, d₁))
    (others : Batched chain source rest d₁ r vs) :
    Batched chain source (address :: rest) d (r.1.map (p :: ·), r.2)
      (⟨chain, address, source, none, d⟩ :: vs)
  | passed {address : String} {rest : List String} {d d₁ : Directory} {e : Failure}
    {r : Except Failure (List GeoPoint) × Directory} {vs : List Visit}
    (failed : save chain address source none d = (.error e, d₁))
    (others : Batched chain source rest d₁ r vs) :
    Batched chain source (address :: rest) d r (⟨chain, address, source, none, d⟩ :: vs)
  | crashed {address : String} {rest : List String} {d d₁ : Directory}
    (failed : save chain address source none d = (.error .crash, d₁)) :
    Batched chain source (address :: rest) d (.error .crash, d₁)
      [⟨chain, address, source, none, d⟩]

theorem batch_batched (chain : List Provider) (source : String) (addresses : List String)
    (d : Directory) :
    Batched chain source addresses d (batch chain source addresses d)
      (batchVisits chain source addresses d) := by
  induction addresses generalizing d with
  | nil => exact .done d
  | cons address rest ih =>
    rw [batch, batchVisits]
    split
    · exact .blank (ih d)
    · simp only [Action.bind_apply, Action.attempt_apply, Visit.outcome]
      cases hs : save chain address source none d with
      | mk r d₁ =>
        cases r with
        | ok p =>
          have found := Batched.found hs (ih d₁)
          dsimp only at found ⊢
          rwa [← Action.map_apply] at found
        | error e =>
          cases e with
          | crash => exact .crashed hs
          | _ => exact .passed hs (ih d₁)

namespace Batched

variable {chain : List Provider} {source : String} {addresses : List String}
  {r : Except Failure (List GeoPoint) × Directory} {vs : List Visit}

theorem explains (h : Batched chain source addresses d r vs) : Explains vs d r.2 := by
  induction h with
  | done d => exact .nothing rfl
  | blank _ ih => exact ih
  | found saved _ ih => exact .cons rfl (by rwa [Visit.outcome, saved])
  | passed failed _ ih => exact .cons rfl (by rwa [Visit.outcome, failed])
  | crashed failed => exact .one rfl (by rw [Visit.outcome, failed])

theorem keeps_rows (h : Batched chain source addresses d r vs) :
    ∀ q ∈ d.tables.points.rows, q ∈ r.2.tables.points.rows := by
  have kept {address : String} {d : Directory} {x : Except Failure GeoPoint × Directory}
      (saved : save chain address source none d = x) :
      ∀ q ∈ d.tables.points.rows, q ∈ x.2.tables.points.rows :=
    saved ▸ (save_saved chain address source none d).keeps_rows
  induction h with
  | done d => exact fun _ hq => hq
  | blank _ ih => exact ih
  | found saved _ ih => exact fun q hq => ih q (kept saved q hq)
  | passed failed _ ih => exact fun q hq => ih q (kept failed q hq)
  | crashed failed => exact kept failed

/-- Every point that is answered is of one of the addresses, and is on record in the end. -/
theorem shows (h : Batched chain source addresses d r vs) :
    ∀ ps, r.1 = .ok ps → ∀ p ∈ ps,
      (p.address ∈ addresses ∧ p.source = source) ∧ r.2.tables.Shows p := by
  induction h with
  | done d =>
    rintro _ ⟨⟩ p hp
    cases hp
  | blank _ ih =>
    intro ps answered p hp
    obtain ⟨⟨address, source⟩, shown⟩ := ih ps answered p hp
    exact ⟨⟨List.mem_cons_of_mem _ address, source⟩, shown⟩
  | @found address rest d d₁ first r vs saved others ih =>
    intro ps answered p hp
    obtain ⟨r, d'⟩ := r
    cases r with
    | error e => cases answered
    | ok found =>
      cases answered
      obtain rfl | hp := List.mem_cons.1 hp
      · have once := save_saved chain address source none d
        rw [saved] at once
        obtain ⟨⟨rfl, source⟩, shown⟩ := once.shows
        -- it stays on record while the others are looked for
        exact ⟨⟨List.mem_cons_self, source⟩, shown.mono others.keeps_rows⟩
      · obtain ⟨⟨address, source⟩, shown⟩ := ih found rfl p hp
        exact ⟨⟨List.mem_cons_of_mem _ address, source⟩, shown⟩
  | passed _ _ ih =>
    intro ps answered p hp
    obtain ⟨⟨address, source⟩, shown⟩ := ih ps answered p hp
    exact ⟨⟨List.mem_cons_of_mem _ address, source⟩, shown⟩
  | crashed failed =>
    intro _ answered
    cases answered

end Batched

end Geocoding

open Geocoding (Visit Explains)

/-! ## The looks of calls and steps -/

namespace Merchants

/-- The look of geocoding on demand. There is none if that is refused before. -/
def geocodeVisits (chain : Option (List Provider)) (who : Principal) (id : Int) (d : Directory) :
    List Visit :=
  match chain, ownedIn who id d.tables with
  | some chain, .ok m =>
    if Text.isBlankText m.address then [] else [Geocoding.visit chain (job id m.address) d]
  | _, _ => []

theorem geocode_explained (chain : Option (List Provider)) (who : Principal) (id : Int)
    (d : Directory) : Explains (geocodeVisits chain who id d) d (geocode chain who id d).2 := by
  cases chain with
  | none => exact .nothing rfl
  | some chain =>
    simp only [geocode, geocodeVisits, Action.bind_apply, owned, Action.check_apply,
      Action.ofExcept_apply]
    cases ownedIn who id d.tables with
    | error e => exact .nothing rfl
    | ok m =>
      dsimp only
      cases blank : Text.isBlankText m.address with
      | true => exact .nothing rfl
      | false =>
        -- what is written after the link does not matter, as nobody is asked any more
        refine .one rfl ?_
        rw [← Geocoding.link_lookups, ← locate_snd]
        simp only [require, Bool.not_false, if_true, Action.attempt_apply]
        cases locate chain id m.address d with
        | mk r d' =>
          cases r with
          | ok found => rfl
          | error e => cases e <;> rfl

end Merchants

/-- The looks of a call, one after another. -/
def Command.visits (who : Principal) : Command → Directory → List Visit
  | .merchants (.geocode chain id), d => Merchants.geocodeVisits chain who id d
  | .geocoding (.save chain address source metadata), d => [⟨chain, address, source, metadata, d⟩]
  | .geocoding (.link chain job), d => [Geocoding.visit chain job d]
  | .geocoding (.batch chain source addresses), d =>
    Geocoding.batchVisits chain source addresses d
  | _, _ => []

section

variable {who : Principal} {d : Directory}

theorem MerchantCommand.perform_explained (c : MerchantCommand) :
    Explains ((Command.merchants c).visits who d) d (c.perform who d).2 := by
  cases c <;> rw [perform, map_snd]
  case create draft => exact .nothing (Merchants.create_rearranges who d draft).lookups
  case find id => exact .nothing (Merchants.find_rearranges who d id).lookups
  case list search paging => exact .nothing rfl
  case update id u => exact .nothing (Merchants.update_rearranges who d id u).lookups
  case delete id => exact .nothing (Merchants.delete_rearranges who d id).lookups
  case geocode chain id => exact Merchants.geocode_explained chain who id d

theorem GeocodingCommand.perform_explained (c : GeocodingCommand)
    (cached : (Command.geocoding c).usesCache = true) :
    Explains ((Command.geocoding c).visits who d) d (c.perform d).2 := by
  cases c <;> rw [perform, map_snd]
  case resolve chain address => cases cached
  case save chain address source metadata => exact .one rfl rfl
  case link chain job => exact Geocoding.link_explained chain job d
  case batch chain source addresses =>
    exact (Geocoding.batch_batched chain source addresses d).explains
  case nearby longitude latitude radius limit =>
    obtain ⟨r, h⟩ := Geocoding.nearby_looks longitude latitude radius limit d
    rw [h]
    exact .nothing rfl

theorem Command.issue_explained {c : Command} (cached : c.usesCache = true) :
    Explains (c.visits who d) d (c.issue who d).2 := by
  cases c with
  | merchants c => exact c.perform_explained
  | tags c => exact .nothing (c.perform_rearranges who d).lookups
  | points c => exact .nothing (c.perform_rearranges who d cached).lookups
  | geocoding c => exact c.perform_explained cached
  | importFile c =>
    rw [issue, map_snd]
    exact .nothing (Import.importBytes_rearranges who d _ _ _).lookups

end

namespace Step

/-- The looks of a step, one after another. -/
def visits : Step → Directory → List Visit
  | .call t, d => t.command.visits t.who { d with now := t.moment }
  | .execute moment chain index, d =>
    match d.queue[index]? with
    | none => []
    | some job =>
      [Geocoding.visit chain job { d with now := moment, queue := d.queue.eraseIdx index }]

theorem take_explained {s : Step} (cached : s.usesCache = true) (d : Directory) :
    Explains (s.visits d) d (s.take d) := by
  cases s with
  | call t =>
    let ready : Directory := { d with now := t.moment }
    have explained : Explains (t.command.visits t.who ready) ready (t.issue d).2 :=
      Command.issue_explained cached
    exact ⟨explained.lookups, explained.coherent⟩
  | execute moment chain index =>
    rw [take, visits]
    cases d.queue[index]? with
    | none => exact .nothing rfl
    | some job =>
      have explained := Geocoding.link_explained chain job
        { d with now := moment, queue := d.queue.eraseIdx index }
      exact ⟨explained.lookups, explained.coherent⟩

end Step

/-! ## Points that are answered -/

/-- The addresses and sources that a call looks up on behalf of its caller. -/
def Command.keys : Command → List (String × String)
  | .geocoding (.save _ address source _) => [(address, source)]
  | .geocoding (.link _ job) => [(job.address, job.source)]
  | .geocoding (.batch _ source addresses) => addresses.map (·, source)
  | _ => []

/-- The points that are answered for them. -/
def Command.answered : Command → Reply → List GeoPoint
  | .geocoding (.save _ _ _ _), .point p => [p]
  | .geocoding (.link _ _), .point p => [p]
  | .geocoding (.batch _ _ _), .found ps => ps
  | _, _ => []

theorem GeocodingCommand.perform_shows {c : GeocodingCommand} {d d' : Directory} {reply : Reply}
    (answered : c.perform d = (.ok reply, d')) {p : GeoPoint}
    (hp : p ∈ (Command.geocoding c).answered reply) :
    (p.address, p.source) ∈ (Command.geocoding c).keys ∧ d'.tables.Shows p := by
  cases c <;> rw [perform, Action.map_apply] at answered
  case save chain address source metadata =>
    have saved := Geocoding.save_saved chain address source metadata d
    cases hs : Geocoding.save chain address source metadata d with
    | mk r d₁ =>
      rw [hs] at answered saved
      cases r <;> cases answered
      obtain rfl := List.mem_singleton.1 hp
      obtain ⟨⟨rfl, rfl⟩, shown⟩ := saved.shows
      exact ⟨List.mem_cons_self, shown⟩
  case link chain job =>
    have linked := Geocoding.link_linked chain job d
    cases hl : Geocoding.link chain job d with
    | mk r d₁ =>
      rw [hl] at answered linked
      cases r <;> cases answered
      obtain rfl := List.mem_singleton.1 hp
      obtain ⟨⟨address, source⟩, shown⟩ := linked.shows
      exact ⟨List.mem_singleton.2 (Prod.ext address source), shown⟩
  case batch chain source addresses =>
    have batched := Geocoding.batch_batched chain source addresses d
    cases hb : Geocoding.batch chain source addresses d with
    | mk r d₁ =>
      rw [hb] at answered batched
      cases r <;> cases answered
      obtain ⟨⟨address, source⟩, shown⟩ := batched.shows _ rfl p hp
      exact ⟨List.mem_map.2 ⟨p.address, address, Prod.ext rfl source.symm⟩, shown⟩
  case resolve chain address => cases hp
  case nearby longitude latitude radius limit => cases hp

theorem Turn.issue_shows {t : Turn} {d : Directory} {reply : Reply}
    (answered : (t.issue d).1 = .ok reply) {p : GeoPoint} (hp : p ∈ t.command.answered reply) :
    (p.address, p.source) ∈ t.command.keys ∧ (t.issue d).2.tables.Shows p := by
  rw [issue] at answered ⊢
  cases hc : t.command with
  | geocoding c =>
    rw [hc] at answered hp
    exact GeocodingCommand.perform_shows (Prod.ext answered rfl) hp
  | merchants c => rw [hc] at hp; cases hp
  | tags c => rw [hc] at hp; cases hp
  | points c => rw [hc] at hp; cases hp
  | importFile c => rw [hc] at hp; cases hp

/-! ## Steps from an empty directory -/

/-- Calls and jobs in any order, none of which writes a point by hand, and providers that may answer
differently every time. All points of one address and one source lie at one place; a point that is
answered lies there, too; and a provider is asked for an address and a source only where no point of
them is on record. -/
theorem cache_coherent (engine : Engine) (moment : Timestamp) {steps : List Step}
    (cached : ∀ s ∈ steps, s.usesCache = true) :
    let d := advance steps (.empty engine moment)
    d.tables.Coherent ∧
    (∀ (t : Turn) (reply : Reply), t.command.usesCache = true → (t.issue d).1 = .ok reply →
      ∀ p ∈ t.command.answered reply, (p.address, p.source) ∈ t.command.keys ∧
        (t.issue d).2.tables.Shows p ∧
        ∀ q ∈ (t.issue d).2.tables.points.rows, q.SameKey p → q.value = p.value) ∧
    ∀ s : Step, s.usesCache = true →
      (s.take d).lookups = d.lookups ++ (s.visits d).flatMap Visit.asked ∧
      ∀ v ∈ s.visits d, v.before.tables.Coherent ∧ (∀ l ∈ v.asked, l.address = v.address) ∧
        (v.asked ≠ [] → ∀ p ∈ v.before.tables.points.rows, ¬v.Seeks p) := by
  intro d
  have coherent : d.tables.Coherent := advance_coherent engine moment cached
  have reached : Attainable d := ⟨engine, moment, steps, rfl⟩
  refine ⟨coherent, ?_, ?_⟩
  · intro t reply cached answered p hp
    obtain ⟨key, shown⟩ := Turn.issue_shows answered hp
    have after : (t.issue d).2.tables.Coherent :=
      Step.take_coherent (s := .call t) cached coherent reached.pointsKept
    exact ⟨key, shown, shown.agrees after⟩
  · intro s cached
    have explained := Step.take_explained cached d
    refine ⟨explained.lookups, ?_⟩
    intro v hv
    refine ⟨explained.coherent coherent v hv, v.asked_about, ?_⟩
    intro asked p stored sought
    exact asked (v.asked_of_known stored sought)

/-- The provider moves the street once it was asked. The point of a bakery is copied for a butcher
and goes with the bakery, and the copy stands for the street from then on. -/
theorem cache_coherent_of_street :
    let ada : Principal := ⟨1, "ada"⟩
    let map : Provider := ⟨"map", fun asked a =>
      ⟨.resolved ⟨if asked.isEmpty then 116 else 117, 39, "house", 80, a, a, "map"⟩, none⟩⟩
    let fields : MerchantFields := { (default : MerchantFields) with address := "Main Street 1" }
    let shop (title : String) : Command :=
      .merchants (.create ⟨{ fields with title := title }, [], [], false⟩)
    let locate (merchant : Int) : Command := .merchants (.geocode (some [map]) merchant)
    let steps := [shop "Bakery", shop "Butcher", locate 1, locate 2, .merchants (.delete 1)].map
      fun c => Step.call ⟨ada, default, c⟩
    let again : Turn := ⟨ada, default, .geocoding (.save [map] "Main Street 1" "merchant" none)⟩
    let d := advance steps (.empty .sqlite default)
    ∃ reply p, (again.issue d).1 = .ok reply ∧ again.command.answered reply = [p] ∧ p.id = 2 ∧
      (∀ q ∈ (again.issue d).2.tables.points.rows, q.SameKey p → q.value = p.value) ∧
      (again.issue d).2.lookups.length = 1 := by
  intro ada map fields shop locate steps again d
  have cached : ∀ s ∈ steps, s.usesCache = true := by decide
  have copy : ((again.issue d).1.toOption.map fun reply =>
      (again.command.answered reply).map GeoPoint.id) = some [2] := by decide +kernel
  obtain ⟨reply, replied, ids⟩ := ok_of_toOption_map copy
  obtain ⟨p, answered, id⟩ := List.map_eq_singleton_iff.1 ids
  obtain ⟨_, agrees, _⟩ := cache_coherent .sqlite default cached
  obtain ⟨_, _, agrees⟩ := agrees again reply rfl replied p (answered ▸ List.mem_cons_self)
  have asked : (again.issue d).2.lookups.length = 1 := by decide +kernel
  refine ⟨reply, p, replied, answered, id, ?_, asked⟩
  simpa only [d] using agrees

end Gazetteer
