import Gazetteer.Proofs.Background
import Gazetteer.Proofs.EngineAgreement
import Gazetteer.Proofs.ImportRows

/-!
# Files imported in parts

Importing a file comes to the same as importing its first rows and then the others, each import
followed by the jobs that it submits. The jobs of the first rows run before the other rows in one
case and after them in the other; rows and jobs do not see each other.

* `importRows_elsewhere`: rows see neither the points nor the jobs that wait.
* `importRows_drained`: rows and jobs in either order.
* `Report.Joins`: the report on a file, from those on its parts.
* `import_in_parts`: imports of whole files.
-/

set_option autoImplicit false

namespace Gazetteer

theorem Tables.detailed_congr {t t' : Tables} (who : Principal) (m : Merchant)
    (tags : t.tags = t'.tags) (relations : t.relations = t'.relations)
    (favorites : t.favorites = t'.favorites) (points : t.pointsOf m.id = t'.pointsOf m.id) :
    t.detailed who m = t'.detailed who m := by
  simp only [detailed, tagged, relationsOf, isFavorite, tags, relations, favorites, points]

theorem ImportCommand.perform_of_ok {who : Principal} {c : ImportCommand} {d d' : Directory}
    {report : Import.Report}
    (done : Import.importBytes c.importer who c.autoGeocode c.bytes d = (.ok report, d')) :
    c.perform who d = (.ok (.report report), (Geocoding.drain c.schedule c.chain d').2) := by
  obtain ⟨d₂, drained⟩ := Geocoding.drain_ok c.schedule c.chain d'
  rw [perform, Action.bind_of_ok done, Action.bind_of_ok drained, drained]
  rfl

namespace Import

variable {i : Importer} {who : Principal} {geocoding : Bool} {columns : List Placed}

/-! ## Rows among other points and jobs -/

/-- Both directories have the same points of merchants that do not exist yet in the first one. -/
def SameAhead (d e : Directory) : Prop :=
  ∀ n, d.tables.merchants.last < n → e.tables.pointsOf n = d.tables.pointsOf n

theorem newcomer_elsewhere (r : Row) {d e : Directory} (same : SameAhead d e) (jobs : List Job) :
    newcomer who r { d.graft e with queue := jobs } = newcomer who r d :=
  Tables.detailed_congr who _ rfl rfl rfl (same _ (Int.lt_succ _))

theorem importRow_elsewhere {r : Row} {d d' e : Directory} {o : Outcome} (same : SameAhead d e)
    (done : importRow i who geocoding r d = (.ok o, d')) (jobs : List Job) :
    importRow i who geocoding r { d.graft e with queue := jobs } =
      (.ok o, { d'.graft e with
        queue := jobs ++ o.item?.toList.flatMap (jobsOf geocoding) }) := by
  cases wrong : objections i r with
  | nil =>
    rw [importRow_of_clean wrong] at done ⊢
    cases done
    rw [adding, newcomer_elsewhere r same jobs]
    show _ = (_, { (adding who geocoding r d).graft e with
      queue := jobs ++ [newcomer who r d].flatMap (jobsOf geocoding) })
    rw [List.flatMap_singleton]
    rfl
  | cons p ps =>
    have ne : objections i r ≠ [] := by
      rw [wrong]
      exact List.cons_ne_nil p ps
    rw [importRow_of_objections ne] at done ⊢
    cases done
    show _ = (_, { d.graft e with queue := jobs ++ [] })
    rw [List.append_nil]

theorem SameAhead.brings {ms : List Merchant} {d d' e : Directory} (same : SameAhead d e)
    (brings : Brings who geocoding ms d d') : SameAhead d' e := by
  intro n ahead
  have points : d'.tables.pointsOf n = d.tables.pointsOf n := by
    rw [Tables.pointsOf, brings.points]
    rfl
  rw [points]
  refine same n ?_
  have last := brings.last
  omega

/-- Rows come to the same among other points and lookups, as long as the points of merchants that do
not exist yet are the same, and other jobs may wait. -/
theorem importRows_elsewhere {records : List (List String)} {d d' e : Directory}
    {os : List Outcome} (same : SameAhead d e)
    (done : importRows i who geocoding columns records d = (.ok os, d')) (jobs : List Job) :
    importRows i who geocoding columns records { d.graft e with queue := jobs } =
      (.ok os, { d'.graft e with
        queue := jobs ++ (os.filterMap Outcome.item?).flatMap (jobsOf geocoding) }) := by
  induction records generalizing d os jobs with
  | nil =>
    cases done
    show _ = (_, { d'.graft e with queue := jobs ++ [] })
    rw [List.append_nil]
    rfl
  | cons record rest ih =>
    obtain ⟨o, d₁, os', first, others, rfl⟩ := importRows_cons_cases done
    have row := importRow_elsewhere same first jobs
    have rows := ih (same.brings (importRow_brings first)) others
      (jobs ++ o.item?.toList.flatMap (jobsOf geocoding))
    rw [importRows_cons record rest row rows, List.append_assoc, ← List.flatMap_append]
    cases o <;> rfl

/-- The jobs of imported merchants are for merchants whose ids were given out. -/
theorem Brings.jobs_given {ms : List Merchant} {d d' : Directory}
    (brings : Brings who geocoding ms d d') :
    ∀ job ∈ ms.flatMap (jobsOf geocoding), ∃ m, job.merchant = some m ∧
      m ≤ d'.tables.merchants.last := by
  intro job hj
  obtain ⟨m, hm, hj⟩ := List.mem_flatMap.1 hj
  rw [jobsOf] at hj
  split at hj
  · obtain rfl := List.mem_singleton.1 hj
    refine ⟨m.id, rfl, d'.tables.merchants.bounded (d.engine.keptMerchant m) ?_⟩
    rw [brings.merchants]
    exact List.mem_append_right _ (List.mem_map_of_mem hm)
  · cases hj

/-! ## Rows and jobs in either order -/

open Geocoding (runJobs runWaiting)

/-- Jobs of the front rows may run before the back rows or after them. -/
theorem importRows_drained {front back : List (List String)} {d d₁ d₂ : Directory}
    {os os' : List Outcome} (idle : d.queue = []) (chain : List Provider)
    (first : importRows i who geocoding columns front d = (.ok os, d₁))
    (others : importRows i who geocoding columns back d₁ = (.ok os', d₂)) :
    ∃ e₂, importRows i who geocoding columns back (runWaiting chain d₁).2 = (.ok os', e₂) ∧
      (runWaiting chain e₂).2 = (runWaiting chain d₂).2 := by
  have before := importRows_brings first
  have after := importRows_brings others
  have submitted := before.queue
  rw [idle, List.nil_append] at submitted
  let calm : Directory := { d₁ with queue := [] }
  let settled : Directory := (runJobs chain d₁.queue calm).2
  have frame : (runWaiting chain d₁).2 = { d₁.graft settled with queue := [] } :=
    (Geocoding.runJobs_local chain d₁.queue).frame calm
  have ahead : SameAhead d₁ settled := by
    intro n ahead
    refine Geocoding.runJobs_pointsOf chain ?_ calm
    intro job hj same
    rw [submitted] at hj
    obtain ⟨m, hm, given⟩ := before.jobs_given job hj
    cases hm.symm.trans same
    omega
  have rows := importRows_elsewhere ahead others []
  rw [List.nil_append] at rows
  refine ⟨_, frame ▸ rows, ?_⟩
  -- the back rows leave points and lookups alone, so the jobs of the front rows find the same
  have same : ({ d₂ with queue := [] } : Directory) =
      Directory.graft { d₂ with queue := [] } calm := by
    rw [Directory.graft, ← after.points, ← after.lookups]
  have jobs := (Geocoding.runJobs_local chain d₁.queue).graft { d₂ with queue := [] } calm
    ⟨after.engine, after.now⟩
  rw [← same] at jobs
  show (runJobs chain _ { d₂.graft settled with queue := [] }).2 =
    (runJobs chain d₂.queue { d₂ with queue := [] }).2
  rw [after.queue, Geocoding.runJobs_append, jobs]
  rfl

/-! ## Reports on parts of a file -/

/-- The same fault, so many rows further down. -/
def RowError.shift (k : Nat) (e : RowError) : RowError := { e with row := e.row + k }

theorem errorsFrom_append (n : Nat) (front back : List Outcome) :
    errorsFrom n (front ++ back) = errorsFrom n front ++ errorsFrom (n + front.length) back := by
  induction front generalizing n with
  | nil => rfl
  | cons o rest ih =>
    have numbers : n + 1 + rest.length = n + (o :: rest).length := by
      rw [List.length_cons]
      omega
    rw [List.cons_append, errorsFrom, errorsFrom, ih, numbers, List.append_assoc]

theorem errorsFrom_shift (n k : Nat) (os : List Outcome) :
    errorsFrom (n + k) os = (errorsFrom n os).map (RowError.shift k) := by
  induction os generalizing n with
  | nil => rfl
  | cons o rest ih =>
    rw [errorsFrom, errorsFrom, Nat.add_right_comm, ih, List.map_append, List.map_map]
    rfl

/-- The report on a file of which the first part has so many rows, from the reports on its parts. -/
structure Report.Joins (whole : Report) (rows : Nat) (first second : Report) : Prop where
  total : whole.total = first.total + second.total
  imported : whole.items.length = first.items.length + second.items.length
  rejected : whole.rejected = first.rejected + second.rejected
  items : whole.items = first.items ++ second.items
  errors : whole.errors = first.errors ++ second.errors.map (RowError.shift rows)

theorem ofOutcomes_joins (who : Principal) (geocoding : Bool) (front back : List Outcome) :
    (Report.ofOutcomes who geocoding (front ++ back)).Joins front.length
      (.ofOutcomes who geocoding front) (.ofOutcomes who geocoding back) where
  total := List.length_append
  imported := by
    show ((front ++ back).filterMap _).length = _
    rw [List.filterMap_append, List.length_append]
    rfl
  rejected := List.countP_append
  items := List.filterMap_append
  errors := by
    show errorsFrom firstRow (front ++ back) = _
    rw [errorsFrom_append, errorsFrom_shift]
    rfl

theorem Report.Joins.bare {whole first second : Report} {rows : Nat}
    (h : whole.Joins rows first second) : whole.bare.Joins rows first.bare second.bare where
  total := h.total
  imported := by
    show (whole.items.map _).length = (first.items.map _).length + (second.items.map _).length
    rw [List.length_map, List.length_map, List.length_map, h.imported]
  rejected := h.rejected
  items := by
    show whole.items.map _ = first.items.map _ ++ second.items.map _
    rw [h.items, List.map_append]
  errors := h.errors

/-! ## Imports of whole files -/

/-- The turn of an import whose jobs run in the order in which they were submitted. -/
def turn (i : Importer) (who : Principal) (auto : Bool) (chain : List Provider)
    (file : List UInt8) (moment : Timestamp) : Turn :=
  ⟨who, moment, .importFile ⟨i, auto, file, chain, .asSubmitted⟩⟩

theorem turn_take {auto : Bool} (chain : List Provider) {file : List UInt8} {moment : Timestamp}
    {header : List String} {records : List (List String)} {d d' : Directory} {os : List Outcome}
    (read : recordsOf file = .ok (header :: records))
    (titled : columnsOf i.labels header = .ok columns) (some : records ≠ [])
    (done : importRows i who (auto && i.background) columns records { d with now := moment } =
      (.ok os, d')) :
    (turn i who auto chain file moment).take d =
      (.ok (.report (.ofOutcomes who (auto && i.background) os)),
        (runWaiting chain d').2) := by
  have rows : importBytes i who auto file { d with now := moment } =
      (.ok (.ofOutcomes who (auto && i.background) os), d') := by
    rw [importBytes_of_records read]
    exact importRecords_of_rows titled some done
  rw [← Geocoding.drain_asSubmitted]
  exact ImportCommand.perform_of_ok rows

variable {auto : Bool} {chain : List Provider} {header : List String}
  {front back : List (List String)} {file file₁ file₂ : List UInt8} {d : Directory}

theorem turn_in_parts (i : Importer) (who : Principal) (auto : Bool) (chain : List Provider)
    (idle : d.queue = []) (titled : columnsOf i.labels header = .ok columns)
    (front_ne : front ≠ []) (back_ne : back ≠ [])
    (read : recordsOf file = .ok (header :: (front ++ back)))
    (read₁ : recordsOf file₁ = .ok (header :: front))
    (read₂ : recordsOf file₂ = .ok (header :: back)) (moment : Timestamp) :
    ∃ whole first second d₁ d₂,
      (turn i who auto chain file moment).take d = (.ok (.report whole), d₂) ∧
      (turn i who auto chain file₁ moment).take d = (.ok (.report first), d₁) ∧
      (turn i who auto chain file₂ moment).take d₁ = (.ok (.report second), d₂) ∧
      whole.Joins front.length first second := by
  obtain ⟨os, d₁, rows₁⟩ := importRows_ok i who (auto && i.background) columns front
    { d with now := moment }
  obtain ⟨os', d₂, rows₂⟩ := importRows_ok i who (auto && i.background) columns back d₁
  have calm : ({ d with now := moment } : Directory).queue = [] := idle
  obtain ⟨e₂, again, same⟩ := importRows_drained calm chain rows₁ rows₂
  have now : (runWaiting chain d₁).2.now = moment :=
    ((Geocoding.runJobs_local chain d₁.queue).beside { d₁ with queue := [] }).2.trans
      (importRows_brings rows₁).now
  have clock : { (runWaiting chain d₁).2 with now := moment } = (runWaiting chain d₁).2 := by
    rw [← now]
  have rows_ne : front ++ back ≠ [] := List.append_ne_nil_of_left_ne_nil front_ne back
  have whole := turn_take chain read titled rows_ne (importRows_append rows₁ rows₂)
  have first := turn_take chain read₁ titled front_ne rows₁
  have second := turn_take chain read₂ titled back_ne (clock.symm ▸ again)
  have joins := ofOutcomes_joins who (auto && i.background) os os'
  rw [length_importRows rows₁] at joins
  rw [same] at second
  exact ⟨_, _, _, _, _, whole, first, second, joins⟩

theorem report_of_alike {report : Report} {d : Directory} {r : Except Failure Reply × Directory}
    (h : Alike Reply.bare (.ok (.report report), d) r) :
    ∃ report' d', r = (.ok (.report report'), d') ∧ report.bare = report'.bare ∧
      d.view = d'.view := by
  obtain ⟨answer, state⟩ := h
  cases r with
  | mk reply d' =>
    cases reply with
    | error e => cases answer
    | ok reply =>
      cases reply with
      | report report' => exact ⟨report', d', rfl, Reply.report.inj (Except.ok.inj answer), state⟩
      | _ => cases Except.ok.inj answer

/-- At another moment an import of the same file differs in dates only. -/
theorem turn_at {moment : Timestamp} {report : Report} {d d' e : Directory} (same : d.view = e.view)
    (done : (turn i who auto chain file moment).take d = (.ok (.report report), d'))
    (other : Timestamp) :
    ∃ report' e', (turn i who auto chain file other).take e = (.ok (.report report'), e') ∧
      report.bare = report'.bare ∧ d'.view = e'.view := by
  have repeats : (turn i who auto chain file moment).Repeats (turn i who auto chain file other) :=
    ⟨rfl, rfl⟩
  have alike := Turn.take_alike same repeats trivial
  rw [done] at alike
  exact report_of_alike alike

/-- A file is imported as one or in two parts, with the jobs of each import run right after it in
the order of their submission. The reports on the parts make up the report on the whole. At the same
moment the directories are the same, and in general they are the same up to dates. -/
theorem import_in_parts (reached : Reachable d) (titled : columnsOf i.labels header = .ok columns)
    (front_ne : front ≠ []) (back_ne : back ≠ [])
    (read : recordsOf file = .ok (header :: (front ++ back)))
    (read₁ : recordsOf file₁ = .ok (header :: front))
    (read₂ : recordsOf file₂ = .ok (header :: back)) :
    (∀ moment, ∃ whole first second d₁ d₂,
      (turn i who auto chain file moment).take d = (.ok (.report whole), d₂) ∧
      (turn i who auto chain file₁ moment).take d = (.ok (.report first), d₁) ∧
      (turn i who auto chain file₂ moment).take d₁ = (.ok (.report second), d₂) ∧
      whole.Joins front.length first second) ∧
    ∀ moment moment₁ moment₂, ∃ whole first second d' d₁ d₂,
      (turn i who auto chain file moment).take d = (.ok (.report whole), d') ∧
      (turn i who auto chain file₁ moment₁).take d = (.ok (.report first), d₁) ∧
      (turn i who auto chain file₂ moment₂).take d₁ = (.ok (.report second), d₂) ∧
      d'.view = d₂.view ∧ whole.bare.Joins front.length first.bare second.bare := by
  have parts := turn_in_parts i who auto chain reached.idle titled front_ne back_ne read read₁ read₂
  refine ⟨parts, ?_⟩
  intro moment moment₁ moment₂
  obtain ⟨whole, first, second, d₁, d₂, whole_done, first_done, second_done, joins⟩ := parts moment
  obtain ⟨first', d₁', first_done', first_bare, view₁⟩ := turn_at rfl first_done moment₁
  obtain ⟨second', d₂', second_done', second_bare, view₂⟩ := turn_at view₁ second_done moment₂
  have bare := joins.bare
  rw [first_bare, second_bare] at bare
  exact ⟨whole, first', second', d₂, d₁', d₂', whole_done, first_done', second_done', view₂, bare⟩

/-- Two rows and three. The butcher's address is on record from the first part, the provider crashes
over that of the florist, and two rows have no title. -/
theorem import_in_parts_of_street :
    let d := run [⟨⟨1, "ada"⟩, default, .tags (.create ⟨"food", "", "", "", ""⟩)⟩]
      (.empty .sqlite default)
    let i : Importer := ⟨.usual, true, fun _ => none⟩
    let chain := [Provider.fixed "map" [("Nowhere", .crashed)]
      fun a => .resolved ⟨116, 39, "house", 80, a, a, "map"⟩]
    let front := "Bakery,Main Street 1,food\n,Nowhere,\n"
    let back := "Butcher,Main Street 1,food\nFlorist,Nowhere,\n,Main Street 1,\n"
    let take (rows : String) :=
      (turn i ⟨1, "ada"⟩ true chain ("title,address,tags\n" ++ rows).toUTF8.toList default).take
    ∃ whole first second d₁ d₂, take (front ++ back) d = (.ok (.report whole), d₂) ∧
      take front d = (.ok (.report first), d₁) ∧ take back d₁ = (.ok (.report second), d₂) ∧
      whole.Joins 2 first second := by
  intro d i chain front back take
  have reached : Reachable d := ⟨.sqlite, default, _, rfl⟩
  have titled : columnsOf i.labels ["title", "address", "tags"] =
      .ok [⟨0, .title⟩, ⟨1, .address⟩, ⟨2, .tags⟩] := ok_of_toOption (by decide +kernel)
  have read : recordsOf ("title,address,tags\n" ++ (front ++ back)).toUTF8.toList = .ok
      (["title", "address", "tags"] ::
        ([["Bakery", "Main Street 1", "food"], ["", "Nowhere", ""]] ++
          [["Butcher", "Main Street 1", "food"], ["Florist", "Nowhere", ""],
            ["", "Main Street 1", ""]])) := ok_of_toOption (by decide +kernel)
  have read₁ : recordsOf ("title,address,tags\n" ++ front).toUTF8.toList = .ok
      [["title", "address", "tags"], ["Bakery", "Main Street 1", "food"], ["", "Nowhere", ""]] :=
    ok_of_toOption (by decide +kernel)
  have read₂ : recordsOf ("title,address,tags\n" ++ back).toUTF8.toList = .ok
      [["title", "address", "tags"], ["Butcher", "Main Street 1", "food"],
        ["Florist", "Nowhere", ""], ["", "Main Street 1", ""]] :=
    ok_of_toOption (by decide +kernel)
  exact (import_in_parts reached titled (by decide) (by decide) read read₁ read₂).1 default

end Import

end Gazetteer
