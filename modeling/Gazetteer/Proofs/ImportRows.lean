import Gazetteer.Proofs.Frames

/-!
# Rows are judged by themselves

Whether a row is imported depends on the row and on the tags that cannot be looked up, and not on
what is stored. A row that is imported adds its merchant, and a row that is rejected leaves no
trace.

* `objections`: what is wrong with a row.
* `newcomer`, `adding`: the merchant of a row, and the directory with it.
* `enroll_row`: the columns that a row touches.
* `importRow_of_clean`, `importRow_of_objections`: a row is admitted or rejected.
* `importRows_append`, `importRows_accepted`: rows one after another, and without the rejected ones.
* `Brings`: what imported merchants leave behind.
* `importRecords_of_rows`, `records_of_importBytes`: the rows of an import.
-/

set_option autoImplicit false

namespace Gazetteer.Import

variable {i : Importer} {who : Principal} {geocoding : Bool} {columns : List Placed}

/-! ## A row -/

/-- Why the tags of these names cannot be looked up. Nobody is asked when there are no names. -/
def lookupFailure? (i : Importer) (names : List String) : Option String :=
  if names.isEmpty then none else i.outage names

/-- What is wrong with a row: with its cells, with the look-up of its tags or with its fields. -/
def objections (i : Importer) (r : Row) : List Problem :=
  if r.problems.isEmpty then
    match lookupFailure? i r.tagNames with
    | some reason => [.tagsUnresolved r.tagNames reason]
    | none =>
      match r.fields.check with
      | .error e => [.notAdded r.fields.title e]
      | .ok _ => []
  else r.problems

/-- The ids of the caller's tags that a row names. -/
def ownTags (who : Principal) (r : Row) (t : Tables) : List Int :=
  (t.findTagsByNames who.id r.tagNames).map Tag.id

/-- The tables with the merchant of a row and its relations. -/
def entering (who : Principal) (r : Row) (d : Directory) : Tables :=
  { d.tables with
    merchants := (d.tables.insertMerchant d.engine (.ofFields d.now r.fields who.id)).2.merchants
    relations := d.tables.relations ++ ((ownTags who r d.tables).filter (0 < ·)).map
      fun tag => ⟨d.tables.merchants.next, tag, d.now⟩ }

/-- The merchant of a row as it is announced. -/
def newcomer (who : Principal) (r : Row) (d : Directory) : Merchant :=
  (entering who r d).detailed who
    (d.tables.insertMerchant d.engine (.ofFields d.now r.fields who.id)).1

/-- The directory with the merchant of a row, its announcement and its job. -/
def adding (who : Principal) (geocoding : Bool) (r : Row) (d : Directory) : Directory :=
  { d with
    tables := entering who r d
    events := d.events ++ [⟨.merchantCreated, .merchant (newcomer who r d), who⟩]
    queue := d.queue ++ jobsOf geocoding (newcomer who r d) }

theorem tagIds_eq (r : Row) (t : Tables) :
    tagIds i who r.tagNames t =
      match lookupFailure? i r.tagNames with
      | some reason => .error reason
      | none => .ok (ownTags who r t) := by
  rw [tagIds, lookupFailure?, ownTags]
  cases r.tagNames with
  | nil => simp [Tables.findTagsByNames]
  | cons name rest => cases i.outage (name :: rest) <;> rfl

/-- The draft of a row adds a merchant and its relations, and touches no other column. -/
theorem enroll_row (r : Row) (d : Directory) :
    d.tables.enroll d.engine d.now who (r.draft (ownTags who r d.tables)) =
      ((d.tables.insertMerchant d.engine (.ofFields d.now r.fields who.id)).1,
        entering who r d) := by
  have columns : (d.tables.enroll d.engine d.now who (r.draft (ownTags who r d.tables))).2 = _ :=
    Tables.enroll_columns d.now _
  refine Prod.ext rfl (columns.trans ?_)
  rw [Tables.linkTags_eq]
  rfl

/-- A merchant without points is created when its fields pass their check. -/
theorem create_row (r : Row) (d : Directory) :
    Merchants.create who (r.draft (ownTags who r d.tables)) d =
      match r.fields.check with
      | .error e => (.error e, d)
      | .ok _ => (.ok (newcomer who r d), { d with
          tables := entering who r d
          events := d.events ++ [⟨.merchantCreated, .merchant (newcomer who r d), who⟩] }) := by
  have decision : Merchants.admitCreate who (r.draft (ownTags who r d.tables)) d.tables =
      r.fields.check := by
    rw [Merchants.admitCreate]
    show (r.fields.check >>= fun _ => .ok ()) = r.fields.check
    cases r.fields.check <;> rfl
  rw [Merchants.create_eq, Action.guarded, decision, enroll_row]
  cases r.fields.check <;> rfl

theorem importRow_of_objections {r : Row} (h : objections i r ≠ []) (d : Directory) :
    importRow i who geocoding r d = (.ok (.rejected (objections i r)), d) := by
  rw [objections] at h ⊢
  rw [importRow]
  cases hp : r.problems with
  | cons p ps => rfl
  | nil =>
    simp only [hp, List.isEmpty_nil, if_true, Bool.not_true, Bool.false_eq_true, if_false,
      Action.bind_apply, Action.read_apply, tagIds_eq] at h ⊢
    cases ht : lookupFailure? i r.tagNames with
    | some reason => rfl
    | none =>
      simp only [ht, Action.bind_apply, Action.attempt_apply, create_row] at h ⊢
      cases hc : r.fields.check with
      | error e => rfl
      | ok _ =>
        rw [hc] at h
        exact absurd rfl h

theorem importRow_of_clean {r : Row} (h : objections i r = []) (d : Directory) :
    importRow i who geocoding r d =
      (.ok (.imported (newcomer who r d)), adding who geocoding r d) := by
  rw [objections] at h
  rw [importRow]
  cases hp : r.problems with
  | cons p ps =>
    rw [hp] at h
    cases h
  | nil =>
    simp only [hp, List.isEmpty_nil, if_true, Bool.not_true, Bool.false_eq_true, if_false,
      Action.bind_apply, Action.read_apply, tagIds_eq] at h ⊢
    cases ht : lookupFailure? i r.tagNames with
    | some reason =>
      rw [ht] at h
      cases h
    | none =>
      simp only [ht, Action.bind_apply, Action.attempt_apply, create_row] at h ⊢
      cases hc : r.fields.check with
      | error e =>
        rw [hc] at h
        cases h
      | ok _ =>
        simp only [Action.bind_apply, submitAddress_apply]
        rfl

/-! ## Rows one after another -/

/-- Nothing is wrong with the row of a record. -/
def accepts (i : Importer) (columns : List Placed) (record : List String) : Bool :=
  (objections i (readRow columns record)).isEmpty

theorem importRows_cons (record : List String) (rest : List (List String)) {d d₁ d₂ : Directory}
    {o : Outcome} {os : List Outcome}
    (first : importRow i who geocoding (readRow columns record) d = (.ok o, d₁))
    (others : importRows i who geocoding columns rest d₁ = (.ok os, d₂)) :
    importRows i who geocoding columns (record :: rest) d = (.ok (o :: os), d₂) := by
  rw [importRows, Action.bind_of_ok first, Action.bind_of_ok others]
  rfl

theorem importRows_cons_cases {record : List String} {rest : List (List String)} {d d' : Directory}
    {os : List Outcome}
    (done : importRows i who geocoding columns (record :: rest) d = (.ok os, d')) :
    ∃ o d₁ os', importRow i who geocoding (readRow columns record) d = (.ok o, d₁) ∧
      importRows i who geocoding columns rest d₁ = (.ok os', d') ∧ os = o :: os' := by
  obtain ⟨o, d₁, first⟩ := importRow_ok i who geocoding (readRow columns record) d
  obtain ⟨os', d₂, others⟩ := importRows_ok i who geocoding columns rest d₁
  rw [importRows_cons record rest first others] at done
  cases done
  exact ⟨o, d₁, os', first, others, rfl⟩

theorem importRows_append {front back : List (List String)} {d d₁ d₂ : Directory}
    {os os' : List Outcome} (first : importRows i who geocoding columns front d = (.ok os, d₁))
    (others : importRows i who geocoding columns back d₁ = (.ok os', d₂)) :
    importRows i who geocoding columns (front ++ back) d = (.ok (os ++ os'), d₂) := by
  induction front generalizing d os with
  | nil =>
    cases first
    exact others
  | cons record rest ih =>
    obtain ⟨o, d', os₁, row, rows, rfl⟩ := importRows_cons_cases first
    exact importRows_cons record _ row (ih rows)

/-- The rows that are rejected are those with which something is wrong, and without them the same
merchants are imported. -/
theorem importRows_accepted {records : List (List String)} {d d' : Directory} {os : List Outcome}
    (done : importRows i who geocoding columns records d = (.ok os, d')) :
    os.map Outcome.isRejected = records.map (fun record => !accepts i columns record) ∧
      importRows i who geocoding columns (records.filter (accepts i columns)) d =
        (.ok (os.filter fun o => !o.isRejected), d') := by
  induction records generalizing d os with
  | nil =>
    cases done
    exact ⟨rfl, rfl⟩
  | cons record rest ih =>
    obtain ⟨o, d₁, os', first, others, rfl⟩ := importRows_cons_cases done
    obtain ⟨same, kept⟩ := ih others
    cases clean : objections i (readRow columns record) with
    | nil =>
      have fine : accepts i columns record = true := by rw [accepts, clean]; rfl
      have row : importRow i who geocoding (readRow columns record) d = _ :=
        importRow_of_clean clean d
      rw [first] at row
      cases row
      refine ⟨?_, ?_⟩
      · rw [List.map_cons, List.map_cons, same, fine]
        rfl
      · rw [List.filter_cons_of_pos fine]
        exact importRows_cons record _ first kept
    | cons p ps =>
      have wrong : accepts i columns record = false := by rw [accepts, clean]; rfl
      have row : importRow i who geocoding (readRow columns record) d = _ :=
        importRow_of_objections (by rw [clean]; exact List.cons_ne_nil p ps) d
      rw [first] at row
      cases row
      refine ⟨?_, ?_⟩
      · rw [List.map_cons, List.map_cons, same, wrong]
        rfl
      · rw [List.filter_cons_of_neg (by simp [wrong])]
        exact kept

theorem length_importRows {records : List (List String)} {d d' : Directory} {os : List Outcome}
    (done : importRows i who geocoding columns records d = (.ok os, d')) :
    os.length = records.length := by
  have lengths := congrArg List.length (importRows_accepted done).1
  rwa [List.length_map, List.length_map] at lengths

/-! ## What imported merchants leave behind -/

/-- The announcement of an imported merchant. -/
def arrival (who : Principal) (m : Merchant) : Event := ⟨.merchantCreated, .merchant m, who⟩

/-- The merchants are stored, announced and put into the queue, in order, and the points, the tags
and the lookups are as they were. -/
structure Brings (who : Principal) (geocoding : Bool) (ms : List Merchant) (d d' : Directory) :
    Prop where
  engine : d'.engine = d.engine
  now : d'.now = d.now
  merchants : d'.tables.merchants.rows = d.tables.merchants.rows ++ ms.map d.engine.keptMerchant
  last : d'.tables.merchants.last = d.tables.merchants.last + ms.length
  tags : d'.tables.tags = d.tables.tags
  points : d'.tables.points = d.tables.points
  events : d'.events = d.events ++ ms.map (arrival who)
  lookups : d'.lookups = d.lookups
  queue : d'.queue = d.queue ++ ms.flatMap (jobsOf geocoding)

namespace Brings

theorem refl (d : Directory) : Brings who geocoding [] d d := by
  constructor <;> simp

theorem trans {ms ms' : List Merchant} {d d₁ d₂ : Directory}
    (h : Brings who geocoding ms d d₁) (h' : Brings who geocoding ms' d₁ d₂) :
    Brings who geocoding (ms ++ ms') d d₂ where
  engine := h'.engine.trans h.engine
  now := h'.now.trans h.now
  merchants := by
    rw [h'.merchants, h.merchants, h.engine, List.map_append, List.append_assoc]
  last := by
    rw [h'.last, h.last, List.length_append]
    omega
  tags := h'.tags.trans h.tags
  points := h'.points.trans h.points
  events := by rw [h'.events, h.events, List.map_append, List.append_assoc]
  lookups := h'.lookups.trans h.lookups
  queue := by rw [h'.queue, h.queue, List.flatMap_append, List.append_assoc]

end Brings

theorem adding_brings (r : Row) (d : Directory) :
    Brings who geocoding [newcomer who r d] d (adding who geocoding r d) := by
  refine ⟨rfl, rfl, rfl, rfl, rfl, rfl, rfl, rfl, ?_⟩
  rw [List.flatMap_singleton]
  rfl

theorem importRow_brings {r : Row} {d d' : Directory} {o : Outcome}
    (done : importRow i who geocoding r d = (.ok o, d')) :
    Brings who geocoding o.item?.toList d d' := by
  cases wrong : objections i r with
  | nil =>
    rw [importRow_of_clean wrong] at done
    cases done
    exact adding_brings r d
  | cons p ps =>
    rw [importRow_of_objections (by rw [wrong]; exact List.cons_ne_nil p ps)] at done
    cases done
    exact .refl d

theorem items_cons (o : Outcome) (os : List Outcome) :
    (o :: os).filterMap Outcome.item? = o.item?.toList ++ os.filterMap Outcome.item? := by
  cases o <;> rfl

theorem importRows_brings {records : List (List String)} {d d' : Directory} {os : List Outcome}
    (done : importRows i who geocoding columns records d = (.ok os, d')) :
    Brings who geocoding (os.filterMap Outcome.item?) d d' := by
  induction records generalizing d os with
  | nil =>
    cases done
    exact .refl _
  | cons record rest ih =>
    obtain ⟨o, d₁, os', first, others, rfl⟩ := importRows_cons_cases done
    rw [items_cons]
    exact (importRow_brings first).trans (ih others)

/-! ## The rows of an import -/

theorem importBytes_of_records {auto : Bool} {bytes : List UInt8} {records : List (List String)}
    (h : recordsOf bytes = .ok records) :
    importBytes i who auto bytes = importRecords i who auto records := by
  rw [importBytes, h]
  rfl

theorem importRecords_of_rows {auto : Bool} {header : List String} {records : List (List String)}
    {d d' : Directory} {os : List Outcome} (titled : columnsOf i.labels header = .ok columns)
    (some : records ≠ [])
    (done : importRows i who (auto && i.background) columns records d = (.ok os, d')) :
    importRecords i who auto (header :: records) d =
      (.ok (.ofOutcomes who (auto && i.background) os), d') := by
  cases records with
  | nil => exact absurd rfl some
  | cons first rest =>
    rw [importRecords, titled]
    exact Action.bind_of_ok done

theorem records_of_importBytes {auto : Bool} {bytes : List UInt8} {d d' : Directory}
    {report : Report} (done : importBytes i who auto bytes d = (.ok report, d')) :
    ∃ header records columns os, recordsOf bytes = .ok (header :: records) ∧
      columnsOf i.labels header = .ok columns ∧
      importRows i who (auto && i.background) columns records d = (.ok os, d') ∧
      report = .ofOutcomes who (auto && i.background) os := by
  cases read : recordsOf bytes with
  | error e =>
    rw [importBytes, read] at done
    cases done
  | ok file =>
    rw [importBytes_of_records read] at done
    cases file with
    | nil => cases done
    | cons header records =>
      cases records with
      | nil => cases done
      | cons first rest =>
        cases titled : columnsOf i.labels header with
        | error e =>
          rw [importRecords, titled] at done
          cases done
        | ok columns =>
          obtain ⟨os, d₁, rows⟩ :=
            importRows_ok i who (auto && i.background) columns (first :: rest) d
          rw [importRecords_of_rows titled (List.cons_ne_nil first rest) rows] at done
          cases done
          exact ⟨header, first :: rest, columns, os, rfl, titled, rows, rfl⟩

end Gazetteer.Import
