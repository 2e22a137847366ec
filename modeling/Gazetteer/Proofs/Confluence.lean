import Gazetteer.Proofs.Deletion
import Gazetteer.Proofs.Origins
import Gazetteer.Proofs.Placements

/-!
# The order of background jobs

The first job for an address adds a point or takes the one on record, and the others copy it. Which
merchant gets the original depends on the order of the jobs. Where the points are does not, nor does
which jobs succeed.

* `Geocoding.Steady`: the outcome of a chain depends on the address only.
* `Task`, `executeAll`, `consultations`: jobs of imported merchants, one after another.
* `spot?`: where an address is, which no job changes.
* `Settled`, `link_settled`: what can come of a job.
* `Stepped`, `Ready.step`: what a task does, as far as the tasks after it can tell.
* `Ready.books`: the points after some tasks, told from the directory before them.
* `executeAll_confluent`: the order of the tasks.
-/

set_option autoImplicit false

namespace Gazetteer

/-- The outcome of the chain depends on the address only. -/
def Geocoding.Steady (chain : List Provider) : Prop :=
  ∀ address d d', (resolve chain address d).1 = (resolve chain address d').1

namespace Import

/-! ## Tasks -/

/-- The job of an imported merchant, at the moment at which it is executed. -/
structure Task where
  moment : Timestamp
  merchant : Merchant

def Task.execute (chain : List Provider) (task : Task) (d : Directory) :
    Except Failure GeoPoint × Directory :=
  Geocoding.link chain (job task.merchant) { d with now := task.moment }

/-- The directory after some tasks. A task that fails ends nothing but itself. -/
def executeAll (chain : List Provider) (tasks : List Task) (d : Directory) : Directory :=
  tasks.foldl (fun d task => (task.execute chain d).2) d

def addresses (tasks : List Task) : Finset String :=
  (tasks.map fun task => task.merchant.address).toFinset

/-- How many tasks for the address have the chain asked. -/
def consultations (chain : List Provider) (address : String) : List Task → Directory → Nat
  | [], _ => 0
  | task :: rest, d =>
    let after := (task.execute chain d).2
    (if task.merchant.address = address ∧ d.lookups.length ≠ after.lookups.length then 1 else 0) +
      consultations chain address rest after

/-! ## Where an address is -/

/-- The place that the chain finds for an address, as far as it can be stored. -/
def found? (chain : List Provider) (address : String) (d : Directory) : Option Placement :=
  match (Geocoding.resolve chain address d).1 with
  | .error _ => none
  | .ok answer =>
    let draft := Geocoding.resolvedDraft answer address source []
    match draft.check with
    | .error _ => none
    | .ok _ => some (d.engine.keptPoint (draft.toPoint default)).placement

/-- Where an address is: the place on record, or else the one that the chain finds. -/
def spot? (chain : List Provider) (address : String) (d : Directory) : Option Placement :=
  ((d.tables.record? address).map fun p => p.placement.heldBy none).or (found? chain address d)

/-- What a task adds to the places of points. -/
def given (chain : List Provider) (d : Directory) (m : Merchant) : Multiset Placement :=
  match spot? chain m.address d with
  | some place => {place.heldBy (some m.id)}
  | none => 0

/-- What the first task for an address takes away: the place of a point on record that nobody
holds. -/
def taken (address : String) (t : Tables) : Multiset Placement :=
  match t.record? address with
  | some p => if p.merchant = none then {p.placement} else 0
  | none => 0

theorem found?_steady {chain : List Provider} (steady : Geocoding.Steady chain) (address : String)
    {d d' : Directory} (engine : d'.engine = d.engine) :
    found? chain address d' = found? chain address d := by
  rw [found?, found?, steady address d' d, engine]

theorem found?_of_blank {chain : List Provider} {address : String} {d : Directory}
    (blank : Text.isBlankText address = true) : found? chain address d = none := by
  rw [found?, Geocoding.resolve_of_blank blank]

end Import

/-! ## What the steps of a link come to -/

namespace Geocoding

variable {chain : List Provider} {d : Directory}

theorem save_of_record (chain : List Provider) {address : String} {p : GeoPoint}
    (metadata : Option Json.Object) (record : d.tables.record? address = some p) :
    save chain address Import.source metadata d = (.ok p, d) := by
  obtain ⟨shown, found⟩ := Tables.pointFor?_of_record? record
  exact save_of_pointFor chain metadata shown found

/-- Without a point on record the chain is asked. Its answer is stored, unless there is none or it
does not pass. -/
theorem save_of_no_record (chain : List Provider) {address : String} (metadata : Option Json.Object)
    (shown : Text.isBlankText address = false) (new : d.tables.record? address = none) :
    (Import.found? chain address d = none ∧ ∃ e ls,
      save chain address Import.source metadata d = (.error e, { d with lookups := ls })) ∨
    ∃ answer ls,
      let draft := resolvedDraft answer address Import.source (metadata.getD [])
      let r := d.tables.insertPoint d.engine (draft.toPoint d.now)
      draft.Valid ∧
        Import.found? chain address d = some (d.engine.keptPoint (draft.toPoint d.now)).placement ∧
        save chain address Import.source metadata d =
          (.ok r.1, { d with lookups := ls, tables := r.2 }) := by
  have none : d.tables.pointFor? address Import.source = none := by
    rwa [Tables.record?, shown, if_neg Bool.false_ne_true] at new
  obtain ⟨r, ls, asked⟩ := resolve_asks chain address d
  rw [save_of_new chain metadata shown none]
  simp only [Import.found?, Action.bind_apply, asked]
  cases r with
  | error e => exact .inl ⟨rfl, e, ls, rfl⟩
  | ok answer =>
    -- the check does not look at the metadata, nor does the place depend on them
    let draft := resolvedDraft answer address Import.source (metadata.getD [])
    have bare : (resolvedDraft answer address Import.source []).check = draft.check := rfl
    simp only [bare, addPoint_eq, Action.guarded]
    cases checked : draft.check with
    | error e => exact .inl ⟨rfl, e, ls, rfl⟩
    | ok _ => exact .inr ⟨answer, ls, draft.check_eq_ok_iff.1 checked, rfl, rfl⟩

/-- A merchant without points gets a copy of the point of another one. -/
theorem link_of_held {job : Job} {m holder : Int} {p : GeoPoint} {recorded : Json.Object}
    (hm : job.merchant = some m)
    (h : save chain job.address job.source job.metadata d = (.ok p, d))
    (held : p.merchant = some holder) (other : holder ≠ m) (none : d.tables.pointsOf m = [])
    (origin : p.metadataObject = .ok recorded) (valid : p.draft.Valid) :
    let draft := copyDraft p m (withOriginOf recorded (job.metadata.getD []))
    let r := d.tables.insertPoint d.engine (draft.toPoint d.now)
    link chain job d = (.ok r.1, { d with tables := r.2 }) := by
  intro draft r
  have missing : (d.tables.pointsOf m).find?
      (fun q => q.address == p.address && q.source == p.source) = Option.none := by
    rw [none, List.find?_nil]
  exact link_of_copied hm h held other missing origin (copyDraft_check m _ valid)

end Geocoding

namespace Import

theorem job_fits {m : Merchant} (low : -2 ^ 63 ≤ m.id) (high : m.id < 2 ^ 63) :
    Json.Fits Json.maxNesting (.object ((job m).metadata.getD [])) := by
  refine ⟨by decide, ?_, trivial, Json.legible_int low high, trivial⟩
  show ["import_type", "merchant_id"].Pairwise (· < ·)
  decide

/-! ## What comes of a job -/

/-- What can come of a job: its address is found and then has a point on record that somebody holds,
and the merchant got a point there; or the address cannot be found, and nothing is written. -/
inductive Settled (chain : List Provider) (m : Merchant) (d : Directory) :
    Except Failure GeoPoint × Directory → Prop
  | found (answer p : GeoPoint) (t : Tables) (ls : List Lookup)
    (record : t.record? m.address = some p) (held : p.merchant ≠ none)
    (copyable : p.Copyable d.engine)
    (spot : spot? chain m.address d = some (p.placement.heldBy none))
    (others : ∀ a, a ≠ m.address → t.record? a = d.tables.record? a)
    (books : t.placements + taken m.address d.tables =
      d.tables.placements + {p.placement.heldBy (some m.id)})
    (silent : d.tables.record? m.address ≠ none → ls = d.lookups) :
    Settled chain m d (.ok answer, { d with lookups := ls, tables := t })
  | lost (e : Failure) (ls : List Lookup) (spot : spot? chain m.address d = none)
    (silent : Text.isBlankText m.address = true → ls = d.lookups) :
    Settled chain m d (.error e, { d with lookups := ls })

variable {chain : List Provider} {m : Merchant} {d : Directory}

theorem spot?_of_record {address : String} {p : GeoPoint}
    (record : d.tables.record? address = some p) :
    spot? chain address d = some (p.placement.heldBy none) := by
  rw [spot?, record]
  rfl

theorem spot?_of_no_record {address : String} (new : d.tables.record? address = none) :
    spot? chain address d = found? chain address d := by
  rw [spot?, new]
  rfl

section

variable {address : String} {t : Tables} {p : GeoPoint}

theorem taken_of_free (record : t.record? address = some p) (free : p.merchant = none) :
    taken address t = {p.placement} := by
  rw [taken, record]
  exact if_pos free

theorem taken_of_held (record : t.record? address = some p) (held : p.merchant ≠ none) :
    taken address t = 0 := by
  rw [taken, record]
  exact if_neg held

theorem taken_of_no_record (new : t.record? address = none) : taken address t = 0 := by
  rw [taken, new]

end

/-- A copy of the point on record. -/
theorem settled_copied {p q : GeoPoint} (answer : GeoPoint)
    (record : d.tables.record? m.address = some p) (held : p.merchant ≠ none)
    (copyable : p.Copyable d.engine)
    (same : (d.engine.keptPoint q).placement = p.placement.heldBy (some m.id)) :
    Settled chain m d (.ok answer, { d with tables := (d.tables.insertPoint d.engine q).2 }) := by
  have address : q.address = m.address :=
    (congrArg Placement.address same).trans (Tables.mem_of_record? record).2.1
  have records := Tables.record?_insertPoint_of_some (e := d.engine) (address ▸ record)
  refine .found answer p _ d.lookups ((records _).trans record) held copyable
    (spot?_of_record record) (fun a _ => records a) ?_ fun _ => rfl
  rw [taken_of_held record held, Tables.placements_insertPoint, same, add_zero]

/-- The point on record, old or new, when nobody holds it. -/
theorem settled_free {t : Tables} {ls : List Lookup} {p : GeoPoint} (answer : GeoPoint)
    (record : t.record? m.address = some p) (copyable : p.Copyable d.engine)
    (spot : spot? chain m.address d = some (p.placement.heldBy none))
    (others : ∀ a, a ≠ m.address → t.record? a = d.tables.record? a)
    (books : t.placements + taken m.address d.tables = d.tables.placements + {p.placement})
    (silent : d.tables.record? m.address ≠ none → ls = d.lookups) :
    Settled chain m d (.ok answer,
      { d with lookups := ls, tables := t.setPointMerchant p.id (some m.id) }) := by
  have moved := Tables.placements_setPointMerchant (Tables.mem_of_record? record).1 (some m.id)
  refine .found answer { p with merchant := some m.id } _ ls
    (Tables.record?_setPointMerchant_self record _) (fun h => nomatch h)
    (copyable.heldBy (some m.id)) spot ?_ ?_ silent
  · intro a ne
    exact (Tables.record?_setPointMerchant_of_ne record _ ne).trans (others a ne)
  · refine add_right_cancel (b := {p.placement}) ?_
    let after := (t.setPointMerchant p.id (some m.id)).placements
    calc after + taken m.address d.tables + {p.placement}
      _ = (after + {p.placement}) + taken m.address d.tables := add_right_comm ..
      _ = (t.placements + {p.placement.heldBy (some m.id)}) + taken m.address d.tables := by
        rw [moved]
      _ = (t.placements + taken m.address d.tables) + {p.placement.heldBy (some m.id)} :=
        add_right_comm ..
      _ = (d.tables.placements + {p.placement}) + {p.placement.heldBy (some m.id)} := by rw [books]
      _ = (d.tables.placements + {p.placement.heldBy (some m.id)}) + {p.placement} :=
        add_right_comm ..

/-- A new point for an address without one. -/
theorem settled_added {q r : GeoPoint} {t : Tables} (answer : GeoPoint) (ls : List Lookup)
    (made : d.tables.insertPoint d.engine q = (r, t)) (shown : Text.isBlankText m.address = false)
    (new : d.tables.record? m.address = none) (address : q.address = m.address)
    (source : q.source = source) (free : q.merchant = none)
    (found : found? chain m.address d = some (d.engine.keptPoint q).placement)
    (copyable : (d.engine.keptPoint r).Copyable d.engine) :
    Settled chain m d (.ok answer,
      { d with lookups := ls, tables := t.setPointMerchant r.id (some m.id) }) := by
  obtain rfl : (d.tables.insertPoint d.engine q).1 = r := congrArg Prod.fst made
  obtain rfl : (d.tables.insertPoint d.engine q).2 = t := congrArg Prod.snd made
  rw [← address] at shown new
  have record := Tables.record?_insertPoint_of_none (e := d.engine) shown source new
  have bare : (d.engine.keptPoint q).placement.heldBy none = (d.engine.keptPoint q).placement := by
    rw [Placement.heldBy, ← free]
    rfl
  rw [address] at record new
  refine settled_free (p := d.engine.keptPoint (d.tables.insertPoint d.engine q).1) answer record
    copyable ?_ ?_ ?_ fun old => absurd new old
  · rw [spot?_of_no_record new, found]
    exact congrArg some bare.symm
  · intro a ne
    exact Tables.record?_insertPoint_of_ne (address.symm ▸ ne)
  · rw [taken_of_no_record new, Tables.placements_insertPoint, add_zero]
    rfl

theorem link_settled (chain : List Provider) {m : Merchant} {d : Directory}
    (copyable : ∀ p, d.tables.record? m.address = some p → p.Copyable d.engine)
    (pointless : d.tables.pointsOf m.id = []) (low : -2 ^ 63 ≤ m.id) (high : m.id < 2 ^ 63) :
    Settled chain m d (Geocoding.link chain (job m) d) := by
  have holder : (job m).merchant = some m.id := rfl
  cases record : d.tables.record? m.address with
  | some p =>
    have copies := copyable p record
    have ⟨valid, kept, recorded, origin⟩ := copies
    have saved := Geocoding.save_of_record chain (job m).metadata record
    cases held : p.merchant with
    | none =>
      rw [Geocoding.link_of_free holder saved held]
      refine settled_free _ record copies (spot?_of_record record) (fun _ _ => rfl) ?_ fun _ => rfl
      rw [taken_of_free record held]
    | some h =>
      have other : h ≠ m.id := by
        rintro rfl
        have own := Tables.mem_pointsOf.2 ⟨(Tables.mem_of_record? record).1, held⟩
        rw [pointless] at own
        cases own
      rw [Geocoding.link_of_held holder saved held other pointless origin valid]
      refine settled_copied _ record (by simp [held]) copies ?_
      have longitude : d.engine.keptFloat p.longitude = p.longitude :=
        congrArg GeoPoint.longitude kept
      have latitude : d.engine.keptFloat p.latitude = p.latitude := congrArg GeoPoint.latitude kept
      simp [GeoPoint.placement, Placement.heldBy, Engine.keptPoint, GeoPointDraft.toPoint,
        Geocoding.copyDraft, longitude, latitude]
  | none =>
    cases blank : Text.isBlankText m.address with
    | true =>
      rw [Geocoding.link_of_error (job m) (Geocoding.save_of_blank _ blank)]
      refine .lost _ d.lookups ?_ fun _ => rfl
      rw [spot?_of_no_record record, found?_of_blank blank]
    | false =>
      obtain ⟨lost, e, ls, saved⟩ | ⟨answer, ls, valid, found, saved⟩ :=
        Geocoding.save_of_no_record chain (job m).metadata blank record
      · rw [Geocoding.link_of_error (job m) saved]
        refine .lost e ls ((spot?_of_no_record record).trans lost) ?_
        intro held
        rw [blank] at held
        cases held
      · have fits := Geocoding.withOrigin_fits answer (job_fits low high)
        let q := (Geocoding.resolvedDraft answer m.address source
          ((job m).metadata.getD [])).toPoint d.now
        have copies : (d.engine.keptPoint (withKey d.tables.points.next q)).Copyable d.engine :=
          ⟨d.engine.keptPoint_valid valid, d.engine.keptPoint_keptPoint _, _,
            GeoPoint.metadataObject_render rfl fits⟩
        have free : (d.tables.insertPoint d.engine q).1.merchant = none := rfl
        rw [Geocoding.link_of_free holder saved free]
        exact settled_added _ ls rfl blank record rfl rfl rfl found copies

/-! ## Tasks one after another -/

/-- The directory lets each of the merchants get a point: they have none yet, and what is on record
can be copied. -/
structure Ready (merchants : List Merchant) (d : Directory) : Prop where
  copyable : ∀ address p, d.tables.record? address = some p → p.Copyable d.engine
  distinct : (merchants.map Merchant.id).Nodup
  pointless : ∀ m ∈ merchants, d.tables.pointsOf m.id = []
  words : ∀ m ∈ merchants, -2 ^ 63 ≤ m.id ∧ m.id < 2 ^ 63

/-- What a task does, as far as the tasks after it can tell. -/
structure Stepped (chain : List Provider) (m : Merchant) (d : Directory)
    (r : Except Failure GeoPoint × Directory) : Prop where
  spot : ∀ a, spot? chain a r.2 = spot? chain a d
  copyable : ∀ a p, r.2.tables.record? a = some p → p.Copyable r.2.engine
  taken : ∀ a, taken a r.2.tables = if a = m.address then 0 else taken a d.tables
  books : r.2.tables.placements + Import.taken m.address d.tables =
    d.tables.placements + given chain d m
  records : ∀ a, d.tables.record? a ≠ none → r.2.tables.record? a ≠ none
  success : ∀ p, r.1 = .ok p → spot? chain m.address d ≠ none
  asked : d.lookups.length ≠ r.2.lookups.length → Text.isBlankText m.address = false ∧
    d.tables.record? m.address = none ∧
    (spot? chain m.address d ≠ none → r.2.tables.record? m.address ≠ none)

theorem Settled.stepped (steady : Geocoding.Steady chain)
    {r : Except Failure GeoPoint × Directory} (h : Settled chain m d r)
    (copyable : ∀ a p, d.tables.record? a = some p → p.Copyable d.engine) :
    Stepped chain m d r := by
  cases h with
  | found answer p t ls record held copies spot others books silent =>
    have here : ∀ a, a = m.address ∨ t.record? a = d.tables.record? a := fun a =>
      (em (a = m.address)).imp_right (others a)
    refine ⟨?_, ?_, ?_, ?_, ?_, ?_, ?_⟩
    · intro a
      obtain rfl | same := here a
      · rw [spot, spot?_of_record record]
      · rw [spot?, spot?, same, found?_steady steady]
        rfl
    · intro a q hq
      obtain rfl | same := here a
      · obtain rfl := Option.some.inj (record.symm.trans hq)
        exact copies
      · exact copyable a q (same ▸ hq)
    · intro a
      split
      · next same => exact same ▸ taken_of_held record held
      · next ne => rw [Import.taken, Import.taken, others a ne]
    · rw [given, spot]
      exact books
    · intro a old
      obtain rfl | same := here a
      · simp [record]
      · exact same ▸ old
    · intro _ _
      simp [spot]
    · intro grown
      have new : d.tables.record? m.address = none := by
        by_contra old
        exact grown (congrArg List.length (silent old).symm)
      exact ⟨(Tables.pointFor?_of_record? record).1, new, fun _ => by simp [record]⟩
  | lost e ls spot silent =>
    have new : d.tables.record? m.address = none := by
      by_contra old
      obtain ⟨p, record⟩ := Option.ne_none_iff_exists'.1 old
      rw [spot?_of_record record] at spot
      cases spot
    refine ⟨?_, copyable, ?_, ?_, fun _ old => old, (fun _ h => nomatch h), ?_⟩
    · intro a
      rw [spot?, spot?, found?_steady steady]
      rfl
    · intro a
      split
      · next same => exact same ▸ taken_of_no_record new
      · rfl
    · rw [taken_of_no_record new, given, spot]
    · intro grown
      refine ⟨?_, new, fun found => absurd spot found⟩
      cases blank : Text.isBlankText m.address with
      | false => rfl
      | true => exact absurd (congrArg List.length (silent blank).symm) grown

/-! ### Whose points are counted -/

theorem countP_taken (n : Int) (address : String) (t : Tables) :
    (taken address t).countP (·.merchant = some n) = 0 := by
  rw [taken]
  split
  · next p _ =>
    split
    · next free =>
      have other : ¬p.placement.merchant = some n := by simp [GeoPoint.placement, free]
      simp [Multiset.countP_eq_zero, other]
    · rfl
  · rfl

theorem countP_given_of_ne {n : Int} (ne : m.id ≠ n) :
    (given chain d m).countP (·.merchant = some n) = 0 := by
  rw [given]
  split
  · simp [Multiset.countP_eq_zero, Placement.heldBy, ne]
  · rfl

theorem countP_given_self (spot : spot? chain m.address d ≠ none) :
    (given chain d m).countP (·.merchant = some m.id) = 1 := by
  obtain ⟨p, hp⟩ := Option.ne_none_iff_exists'.1 spot
  have one : given chain d m = {p.heldBy (some m.id)} := by rw [given, hp]
  rw [one, ← Multiset.cons_zero, Multiset.countP_cons]
  simp [Placement.heldBy]

theorem Stepped.pointsOf_length {r : Except Failure GeoPoint × Directory}
    (h : Stepped chain m d r) (n : Int) : (r.2.tables.pointsOf n).length =
      (d.tables.pointsOf n).length + (given chain d m).countP (·.merchant = some n) := by
  have counted := congrArg (Multiset.countP (·.merchant = some n)) h.books
  rwa [Multiset.countP_add, Multiset.countP_add, countP_taken, add_zero, Tables.countP_placements,
    Tables.countP_placements] at counted

/-! ### Runs -/

/-- A task does what its job does, and the tasks after it find the directory ready. -/
theorem Ready.step (steady : Geocoding.Steady chain) {task : Task} {rest : List Merchant}
    (ready : Ready (task.merchant :: rest) d) :
    Stepped chain task.merchant d (task.execute chain d) ∧
      Ready rest (task.execute chain d).2 := by
  obtain ⟨low, high⟩ := ready.words _ List.mem_cons_self
  have settled : Settled chain task.merchant { d with now := task.moment } (task.execute chain d) :=
    link_settled chain (fun p => ready.copyable _ p) (ready.pointless _ List.mem_cons_self) low high
  have inner := settled.stepped steady ready.copyable
  have spots : ∀ a, spot? chain a { d with now := task.moment } = spot? chain a d := by
    intro a
    rw [spot?, spot?, found?_steady steady]
    rfl
  have stepped : Stepped chain task.merchant d (task.execute chain d) := by
    refine ⟨fun a => (inner.spot a).trans (spots a), inner.copyable, inner.taken, ?_, inner.records,
      ?_, ?_⟩
    · rw [inner.books, given, given, spots]
    · intro p hp
      exact spots _ ▸ inner.success p hp
    · intro grown
      exact spots task.merchant.address ▸ inner.asked grown
  have ⟨fresh, distinct⟩ := List.nodup_cons.1 ready.distinct
  refine ⟨stepped, stepped.copyable, distinct, ?_, fun m hm => ready.words m (List.mem_cons_of_mem _ hm)⟩
  intro m hm
  have other : task.merchant.id ≠ m.id := fun same => fresh (same ▸ List.mem_map_of_mem hm)
  have counted := stepped.pointsOf_length m.id
  rw [countP_given_of_ne other, ready.pointless m (List.mem_cons_of_mem _ hm)] at counted
  exact List.eq_nil_of_length_eq_zero counted

/-- Tasks keep the directory ready for those after them. -/
theorem Ready.run (steady : Geocoding.Steady chain) {tasks : List Task} {rest : List Merchant}
    (ready : Ready (tasks.map Task.merchant ++ rest) d) : Ready rest (executeAll chain tasks d) := by
  induction tasks generalizing d with
  | nil => exact ready
  | cons task more ih => exact ih (ready.step steady).2

/-- Tasks find the places of addresses where they were before. -/
theorem Ready.spot?_run (steady : Geocoding.Steady chain) {tasks : List Task}
    (ready : Ready (tasks.map Task.merchant) d) (address : String) :
    spot? chain address (executeAll chain tasks d) = spot? chain address d := by
  induction tasks generalizing d with
  | nil => rfl
  | cons task more ih =>
    obtain ⟨stepped, next⟩ := ready.step steady
    exact (ih next).trans (stepped.spot address)

/-- Tasks of other merchants give a merchant no point and take none away. -/
theorem Ready.pointsOf_run (steady : Geocoding.Steady chain) {tasks : List Task}
    (ready : Ready (tasks.map Task.merchant) d) {n : Int}
    (others : ∀ task ∈ tasks, task.merchant.id ≠ n) :
    ((executeAll chain tasks d).tables.pointsOf n).length = (d.tables.pointsOf n).length := by
  induction tasks generalizing d with
  | nil => rfl
  | cons task more ih =>
    obtain ⟨stepped, next⟩ := ready.step steady
    have first := stepped.pointsOf_length n
    rw [countP_given_of_ne (others task List.mem_cons_self)] at first
    exact (ih next fun t ht => others t (List.mem_cons_of_mem _ ht)).trans first

/-- A sum over addresses of which one is gone afterwards. -/
theorem sum_insert_address {a : String} {s : Finset String} {f g : String → Multiset Placement}
    (h : ∀ x, g x = if x = a then 0 else f x) :
    ∑ x ∈ insert a s, f x = f a + ∑ x ∈ s, g x := by
  have parts : ∀ x, f x = (if x = a then f a else 0) + g x := by
    intro x
    rw [h]
    split
    · next same => rw [same, add_zero]
    · rw [zero_add]
  have gone : g a = 0 := (h a).trans (if_pos rfl)
  calc ∑ x ∈ insert a s, f x
    _ = ∑ x ∈ insert a s, ((if x = a then f a else 0) + g x) :=
      Finset.sum_congr rfl fun x _ => parts x
    _ = (∑ x ∈ insert a s, if x = a then f a else 0) + ∑ x ∈ insert a s, g x :=
      Finset.sum_add_distrib
    _ = f a + ∑ x ∈ s, g x := by
      rw [Finset.sum_ite_eq', if_pos (Finset.mem_insert_self a s), Finset.sum_insert_zero gone]

/-- The points after some tasks: every task whose address can be found has added its place, and of
each address the first one has taken away the place of a point that nobody held. -/
theorem Ready.books (steady : Geocoding.Steady chain) {tasks : List Task}
    (ready : Ready (tasks.map Task.merchant) d) :
    (executeAll chain tasks d).tables.placements +
        ∑ a ∈ addresses tasks, taken a d.tables =
      d.tables.placements + (tasks.map fun task => given chain d task.merchant).sum := by
  induction tasks generalizing d with
  | nil => rfl
  | cons task rest ih =>
    obtain ⟨stepped, next⟩ := ready.step steady
    have later := ih next
    have spots : ∀ m, given chain (task.execute chain d).2 m = given chain d m := by
      intro m
      rw [given, given, stepped.spot]
    simp only [spots] at later
    let first := task.merchant.address
    let others := addresses rest
    let after := (task.execute chain d).2
    let final := (executeAll chain rest after).tables.placements
    let gifts := (rest.map fun task => given chain d task.merchant).sum
    rw [addresses, List.map_cons, List.toFinset_cons, sum_insert_address stepped.taken,
      List.map_cons, List.sum_cons]
    calc final + (taken first d.tables + ∑ a ∈ others, taken a after.tables)
      _ = (final + ∑ a ∈ others, taken a after.tables) + taken first d.tables := by
        rw [add_comm (taken first d.tables), add_assoc]
      _ = (after.tables.placements + gifts) + taken first d.tables := by rw [later]
      _ = (after.tables.placements + taken first d.tables) + gifts := add_right_comm ..
      _ = (d.tables.placements + given chain d task.merchant) + gifts := by rw [stepped.books]
      _ = d.tables.placements + (given chain d task.merchant + gifts) := add_assoc ..

/-- Once the place of an address is stored the chain is asked for it no more. -/
theorem Ready.consultations_le (steady : Geocoding.Steady chain) {tasks : List Task}
    (ready : Ready (tasks.map Task.merchant) d) (address : String)
    (spot : Text.isBlankText address = false → spot? chain address d ≠ none) :
    consultations chain address tasks d ≤ if d.tables.record? address = none then 1 else 0 := by
  induction tasks generalizing d with
  | nil => exact Nat.zero_le _
  | cons task rest ih =>
    obtain ⟨stepped, next⟩ := ready.step steady
    have later := ih next fun shown => stepped.spot address ▸ spot shown
    rw [consultations]
    split
    · next asked =>
      obtain ⟨rfl, grown⟩ := asked
      obtain ⟨shown, new, stored⟩ := stepped.asked grown
      rw [if_neg (stored (spot shown))] at later
      rw [if_pos new]
      omega
    · by_cases new : d.tables.record? address = none
      · rw [if_pos new]
        split at later <;> omega
      · rw [if_neg (stepped.records address new)] at later
        rw [if_neg new]
        omega

/-- A merchant whose job succeeds has one point when all jobs are done. -/
theorem Ready.pointsOf_length (steady : Geocoding.Steady chain) {early late : List Task}
    {task : Task} (ready : Ready ((early ++ task :: late).map Task.merchant) d) {p : GeoPoint}
    (done : (task.execute chain (executeAll chain early d)).1 = .ok p) :
    ((executeAll chain (early ++ task :: late) d).tables.pointsOf task.merchant.id).length = 1 := by
  rw [List.map_append, List.map_cons] at ready
  have before := ready.run steady
  obtain ⟨stepped, after⟩ := before.step steady
  have own := stepped.pointsOf_length task.merchant.id
  rw [before.pointless _ List.mem_cons_self, countP_given_self (stepped.success p done)] at own
  have fresh := (List.nodup_cons.1 before.distinct).1
  have kept := after.pointsOf_run steady (n := task.merchant.id) fun t ht same =>
    fresh (List.mem_map.2 ⟨t.merchant, List.mem_map_of_mem ht, same⟩)
  rw [executeAll, List.foldl_append]
  exact kept.trans own

end Import

/-- Jobs of imported merchants are executed one at a time over a directory that was reached in any
way, with a chain whose outcome depends on the address only, and the merchants have no points yet.
In whatever order, and at whatever moments, the jobs are executed, the points are in the same places
afterwards. A merchant whose job succeeded then has one point, a job that fails or whose provider
crashes changes nothing, and for an address that has a point on record at the end the chain was
asked once at most. -/
theorem Import.executeAll_confluent {chain : List Provider} (steady : Geocoding.Steady chain)
    {d : Directory} (reached : Attainable d)
    (readable : ∀ p ∈ d.tables.points.rows, ∃ members, p.metadataObject = .ok members)
    {tasks tasks' : List Task} (same : (tasks.map Task.merchant).Perm (tasks'.map Task.merchant))
    (distinct : (tasks.map (·.merchant.id)).Nodup)
    (pointless : ∀ task ∈ tasks, d.tables.pointsOf task.merchant.id = [])
    (words : ∀ task ∈ tasks, -2 ^ 63 ≤ task.merchant.id ∧ task.merchant.id < 2 ^ 63) :
    let final := executeAll chain tasks d
    final.tables.placements = (executeAll chain tasks' d).tables.placements ∧
      (∀ (early late : List Task) (task : Task), tasks = early ++ task :: late →
        let before := executeAll chain early d
        let done := task.execute chain before
        (∀ p, done.1 = .ok p → (final.tables.pointsOf task.merchant.id).length = 1) ∧
          ∀ e, done.1 = .error e → done.2.tables = before.tables ∧
            done.2.events = before.events ∧ done.2.queue = before.queue) ∧
      ∀ address, (final.tables.pointFor? address source).isSome →
        consultations chain address tasks d ≤ 1 := by
  intro final
  have ready : Ready (tasks.map Task.merchant) d := by
    refine ⟨?_, ?_, ?_, ?_⟩
    · intro address p record
      have stored := (Tables.mem_of_record? record).1
      exact ⟨reached.valid.points p stored, reached.pointsKept p stored, readable p stored⟩
    · rw [List.map_map]
      exact distinct
    · simpa using pointless
    · simpa using words
  have ready' : Ready (tasks'.map Task.merchant) d :=
    ⟨ready.copyable, (same.map _).nodup ready.distinct,
      fun m hm => ready.pointless m (same.mem_iff.2 hm),
      fun m hm => ready.words m (same.mem_iff.2 hm)⟩
  refine ⟨?_, ?_, ?_⟩
  · have addresses : addresses tasks = addresses tasks' := by
      have perm := same.map Merchant.address
      rw [List.map_map, List.map_map] at perm
      exact List.toFinset_eq_of_perm _ _ perm
    have gifts : (tasks.map fun task => given chain d task.merchant).sum =
        (tasks'.map fun task => given chain d task.merchant).sum := by
      have perm := same.map (given chain d)
      rw [List.map_map, List.map_map] at perm
      exact perm.sum_eq
    have books := ready.books steady
    rw [addresses, gifts, ← ready'.books steady] at books
    exact add_right_cancel books
  · rintro early late task rfl before done
    refine ⟨fun p success => ready.pointsOf_length steady success, ?_⟩
    intro e failure
    have linked : Geocoding.Linked (job task.merchant) { before with now := task.moment } done :=
      Geocoding.link_linked ..
    generalize done = after at linked failure
    cases linked with
    | refused e ls => exact ⟨rfl, rfl, rfl⟩
    | _ => cases failure
  · intro address stored
    have most := ready.consultations_le steady address ?_
    · split at most <;> omega
    · intro shown
      obtain ⟨p, hp⟩ := Option.isSome_iff_exists.1 stored
      have record : final.tables.record? address = some p := by
        rw [Tables.record?, shown]
        exact hp
      rw [← ready.spot?_run steady address, spot?_of_record record]
      exact Option.some_ne_none _

/-- A provider without memory makes a steady chain. -/
theorem Geocoding.steady_fixed (name : String) (known : List (String × Outcome))
    (other : String → Outcome) : Steady [.fixed name known other] := by
  intro address d d'
  simp only [resolve, Action.bind_apply, Action.ofExcept_apply]
  cases requireAddress address with
  | error e => rfl
  | ok _ =>
    simp only [askInOrder, Action.bind_apply, ask, Provider.fixed]
    cases (known.lookup address).getD (other address) <;> rfl

/-- A point that nobody holds is on record for the address of a bakery and a butcher, and the
provider crashes over that of a florist. -/
theorem Import.executeAll_street :
    let chain := [Provider.fixed "map" [("Nowhere", .crashed)]
      fun a => .resolved ⟨116, 39, "house", 80, a, a, "map"⟩]
    let visit : GeocodingCommand := .save chain "Main Street 1" source none
    let d := advance [.call ⟨⟨1, "ada"⟩, default, .geocoding visit⟩] (.empty .sqlite default)
    let bakery : Task := ⟨default, { (default : Merchant) with id := 1, address := "Main Street 1" }⟩
    let butcher : Task := ⟨default, { (default : Merchant) with id := 2, address := "Main Street 1" }⟩
    let florist : Task := ⟨default, { (default : Merchant) with id := 3, address := "Nowhere" }⟩
    let final := executeAll chain [bakery, butcher, florist] d
    final.tables.placements = (executeAll chain [florist, butcher, bakery] d).tables.placements ∧
      (final.tables.pointsOf 2).length = 1 ∧
      consultations chain "Main Street 1" [bakery, butcher, florist] d ≤ 1 := by
  intro chain visit d bakery butcher florist final
  have readable : ∀ p ∈ d.tables.points.rows, ∃ members, p.metadataObject = .ok members := by
    have all : d.tables.points.rows.all (fun p => p.metadataObject.isOk) = true := by
      decide +kernel
    exact fun p hp => ok_of_isOk (List.all_eq_true.1 all p hp)
  have pointless : ∀ task ∈ [bakery, butcher, florist],
      d.tables.pointsOf task.merchant.id = [] := by
    have none : [bakery, butcher, florist].all (fun task =>
        (d.tables.pointsOf task.merchant.id).isEmpty) = true := by decide +kernel
    exact fun task ht => List.isEmpty_iff.1 (List.all_eq_true.1 none task ht)
  have reversed : [bakery, butcher, florist].Perm [florist, butcher, bakery] :=
    (List.reverse_perm [florist, butcher, bakery])
  obtain ⟨same, each, once⟩ := executeAll_confluent (Geocoding.steady_fixed _ _ _)
    ⟨.sqlite, default, _, rfl⟩ readable (reversed.map _) (by decide) pointless
    (by decide)
  obtain ⟨p, done⟩ := ok_of_isOk (x := (butcher.execute chain (executeAll chain [bakery] d)).1)
    (by decide +kernel)
  exact ⟨same, (each [bakery] [florist] butcher rfl).1 p done,
    once "Main Street 1" (by decide +kernel)⟩

end Gazetteer
