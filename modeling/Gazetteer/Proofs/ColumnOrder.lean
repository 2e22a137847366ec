import Gazetteer.Proofs.Headers

/-!
# The order of the columns

The cells of a row are read one after another, each under the column that its header cell names. Two
cells of different columns say different things, so the order in which they stand shows in nothing
but the order of the problems of the row.

* `arranged`: the cells at some positions.
* `entries_arranged`: the same cells are read under the same columns, in another order.
* `Row.Matches`, `Outcome.Matches`, `Report.Matches`: the same but for the order of problems.
* `Row.put_comm`: cells of different columns say different things.
* `columns_in_any_order`: the import of a file whose columns stand in another order.
-/

set_option autoImplicit false

namespace Gazetteer.Import

variable {labels : Labels} {header record : List String} {order : List Nat}

/-! ## Cells in another order -/

/-- The cells at some positions. A cell that is not there is blank. -/
def arranged (order : List Nat) (cells : List String) : List String :=
  order.map fun n => cells[n]?.getD ""

theorem arranged_range (cells : List String) :
    arranged (List.range cells.length) cells = cells := by
  refine List.ext_getElem (by simp [arranged]) ?_
  intro n _ inside
  simp only [arranged, List.getElem_map, List.getElem_range, List.getElem?_eq_getElem inside]
  rfl

/-- The cells of a record under the columns that a header names. -/
def entries (labels : Labels) (header record : List String) : List (Column × String) :=
  (placed labels 0 header).map fun p => (p.column, record[p.index]?.getD "")

/-- Where header cells and cells are known by positions, so are the entries. -/
theorem entries_of_positions {name cell : Nat → String}
    (names : header = order.map name)
    (cells : ∀ x ∈ order.zipIdx, record[x.2]?.getD "" = cell x.1) :
    entries labels header record =
      order.filterMap fun n => (labels.resolve (name n)).map (·, cell n) := by
  have positions : order = order.zipIdx.map Prod.fst := by rw [List.zipIdx_map_fst]
  conv_rhs => rw [positions, List.filterMap_map]
  rw [entries, placed, names, List.zipIdx_map, List.filterMap_map, List.map_filterMap]
  refine List.filterMap_congr ?_
  intro x hx
  simp only [Function.comp_apply, Prod.map_fst, Prod.map_snd, id_eq, Option.map_map]
  cases labels.resolve (name x.1) with
  | none => rfl
  | some c => exact congrArg (fun s => some (c, s)) (cells x hx)

theorem entries_arranged (positions : order.Perm (List.range header.length)) :
    (entries labels (arranged order header) (arranged order record)).Perm
      (entries labels header record) := by
  have there : entries labels (arranged order header) (arranged order record) =
      order.filterMap fun n =>
        (labels.resolve (header[n]?.getD "")).map (·, record[n]?.getD "") := by
    refine entries_of_positions rfl ?_
    intro x hx
    rw [arranged, List.getElem?_map, List.mem_zipIdx_iff_getElem?.1 hx]
    rfl
  have here : entries labels header record =
      (List.range header.length).filterMap fun n =>
        (labels.resolve (header[n]?.getD "")).map (·, record[n]?.getD "") := by
    refine entries_of_positions (arranged_range header).symm ?_
    intro x hx
    obtain ⟨_, at_n⟩ := List.getElem?_eq_some_iff.1 (List.mem_zipIdx_iff_getElem?.1 hx)
    rw [← at_n, List.getElem_range]
  rw [there, here]
  exact positions.filterMap _

/-- The entries have the columns that the header names. -/
theorem entries_columns (labels : Labels) (header record : List String) :
    (entries labels header record).map Prod.fst = header.filterMap labels.resolve := by
  rw [entries, List.map_map]
  exact placed_columns labels 0 header

/-! ## What the entries say -/

namespace Row

/-- Nothing is wrong. -/
def cleared (r : Row) : Row := { r with problems := [] }

/-- The same is said, and the same is wrong in some order. -/
structure Matches (r r' : Row) : Prop where
  fields : r.fields = r'.fields
  tagNames : r.tagNames = r'.tagNames
  problems : r.problems.Perm r'.problems

/-- What a cell says, whether or not something is wrong with it. -/
def put (r : Row) (c : Column) (cell : String) : Row :=
  match c with
  | .longitude => { r with fields := { r.fields with
      longitude := (readCoordinate .longitude cell).toOption <|> r.fields.longitude } }
  | .latitude => { r with fields := { r.fields with
      latitude := (readCoordinate .latitude cell).toOption <|> r.fields.latitude } }
  | c => r.say c cell

theorem put_comm {c c' : Column} (other : c ≠ c') (r : Row) (cell cell' : String) :
    (r.put c cell).put c' cell' = (r.put c' cell').put c cell := by
  cases c <;> cases c' <;> first
    | exact absurd rfl other
    | rfl

theorem cleared_say (r : Row) (c : Column) (cell : String) :
    (r.say c cell).cleared = r.cleared.put c cell := by
  cases c
  case longitude =>
    rw [say, put]
    cases readCoordinate .longitude cell <;> rfl
  case latitude =>
    rw [say, put]
    cases readCoordinate .latitude cell <;> rfl
  all_goals rfl

theorem problems_say (r : Row) (c : Column) (cell : String) :
    (r.say c cell).problems = r.problems ++ (blank.say c cell).problems := by
  cases c
  case longitude =>
    rw [say, say]
    cases readCoordinate .longitude cell <;> simp [blank]
  case latitude =>
    rw [say, say]
    cases readCoordinate .latitude cell <;> simp [blank]
  all_goals exact (List.append_nil _).symm

/-- What an entry says that is not blank. -/
def tell (r : Row) (e : Column × String) : Row :=
  let cell := Text.trim e.2
  if cell.isEmpty then r else r.say e.1 cell

/-- What an entry says, whether or not something is wrong with it. -/
def hear (r : Row) (e : Column × String) : Row :=
  let cell := Text.trim e.2
  if cell.isEmpty then r else r.put e.1 cell

theorem hear_comm {e e' : Column × String} (other : e.1 ≠ e'.1) (r : Row) :
    (r.hear e).hear e' = (r.hear e').hear e := by
  simp only [hear]
  split <;> split
  · rfl
  · rfl
  · rfl
  · exact put_comm other r _ _

theorem cleared_foldl_tell (es : List (Column × String)) (r : Row) :
    (es.foldl tell r).cleared = es.foldl hear r.cleared := by
  induction es generalizing r with
  | nil => rfl
  | cons e rest ih =>
    have first : (r.tell e).cleared = r.cleared.hear e := by
      simp only [tell, hear]
      split
      · rfl
      · exact cleared_say r e.1 _
    rw [List.foldl_cons, List.foldl_cons, ih, first]

theorem problems_foldl_tell (es : List (Column × String)) (r : Row) :
    (es.foldl tell r).problems = r.problems ++ es.flatMap fun e => (blank.tell e).problems := by
  induction es generalizing r with
  | nil => exact (List.append_nil _).symm
  | cons e rest ih =>
    have first : (r.tell e).problems = r.problems ++ (blank.tell e).problems := by
      simp only [tell]
      split
      · exact (List.append_nil _).symm
      · exact problems_say r e.1 _
    rw [List.foldl_cons, ih, first, List.flatMap_cons, List.append_assoc]

/-- Entries of different columns may be told in any order. -/
theorem foldl_tell_matches {es es' : List (Column × String)} (reordered : es.Perm es')
    (once : (es.map Prod.fst).Nodup) (r : Row) :
    (es.foldl tell r).Matches (es'.foldl tell r) := by
  have said : (es.foldl tell r).cleared = (es'.foldl tell r).cleared := by
    rw [cleared_foldl_tell, cleared_foldl_tell]
    refine reordered.foldl_eq' ?_ _
    intro e he e' he' r
    by_cases same : e.1 = e'.1
    · rw [List.inj_on_of_nodup_map once he he' same]
    · exact hear_comm same r
  have wrong : (es.foldl tell r).problems.Perm (es'.foldl tell r).problems := by
    rw [problems_foldl_tell, problems_foldl_tell]
    exact (reordered.flatMap_right _).append_left _
  exact ⟨(congrArg Row.fields said :), (congrArg Row.tagNames said :), wrong⟩

theorem Matches.requireTitle {r r' : Row} (h : r.Matches r') :
    r.requireTitle.Matches r'.requireTitle := by
  rw [Row.requireTitle, Row.requireTitle, h.fields]
  split
  · exact ⟨rfl, h.tagNames, h.problems.append_right _⟩
  · exact h

/-- Where nothing is wrong, rows that match are the same. -/
theorem Matches.eq_of_problems {r r' : Row} (h : r.Matches r') (fine : r.problems = []) :
    r = r' := by
  have fine' : r'.problems = [] := (fine ▸ h.problems).nil_eq.symm
  obtain ⟨fields, tagNames, problems⟩ := r
  obtain ⟨fields', tagNames', problems'⟩ := r'
  cases fine
  cases fine'
  cases h.fields
  cases h.tagNames
  rfl

end Row

/-- Under the columns of a header and under those of the header in another order, a record and the
record in that order say the same. -/
theorem readRow_arranged (positions : order.Perm (List.range header.length))
    (once : (header.filterMap labels.resolve).Nodup) (record : List String) :
    (readRow (placed labels 0 header) record).Matches
      (readRow (placed labels 0 (arranged order header)) (arranged order record)) := by
  have told (header record : List String) : readRow (placed labels 0 header) record =
      ((entries labels header record).foldl Row.tell .blank).requireTitle := by
    rw [readRow, entries, List.foldl_map]
    rfl
  rw [told, told]
  refine (Row.foldl_tell_matches (entries_arranged positions).symm ?_ _).requireTitle
  rwa [entries_columns]

/-! ## The import of rows that match -/

/-- The same merchant, or the same problems in some order. -/
inductive Outcome.Matches : Outcome → Outcome → Prop where
  | imported (m : Merchant) : Outcome.Matches (.imported m) (.imported m)
  | rejected {ps ps' : List Problem} (problems : ps.Perm ps') :
      Outcome.Matches (.rejected ps) (.rejected ps')

variable (i : Importer) (who : Principal) (geocoding : Bool)

theorem importRow_matches {r r' : Row} (h : r.Matches r') (d : Directory) :
    ∃ o o' d', importRow i who geocoding r d = (.ok o, d') ∧
      importRow i who geocoding r' d = (.ok o', d') ∧ o.Matches o' := by
  by_cases fine : r.problems = []
  · cases h.eq_of_problems fine
    obtain ⟨o, d', done⟩ := importRow_ok i who geocoding r d
    refine ⟨o, o, d', done, done, ?_⟩
    cases o with
    | imported m => exact .imported m
    | rejected ps => exact .rejected (.refl ps)
  · have fine' : r'.problems ≠ [] := fun none => fine (none ▸ h.problems).eq_nil
    have objected {r : Row} (wrong : r.problems ≠ []) : objections i r = r.problems := by
      rw [objections, if_neg (by simpa using wrong)]
    have rejected {r : Row} (wrong : r.problems ≠ []) :
        importRow i who geocoding r d = (.ok (.rejected r.problems), d) := by
      rw [importRow_of_objections (by rwa [objected wrong]), objected wrong]
    exact ⟨_, _, d, rejected fine, rejected fine', .rejected h.problems⟩

theorem importRows_matches {columns columns' : List Placed} {move : List String → List String}
    {records : List (List String)}
    (matching : ∀ record ∈ records,
      (readRow columns record).Matches (readRow columns' (move record)))
    (d : Directory) :
    ∃ os os' d', importRows i who geocoding columns records d = (.ok os, d') ∧
      importRows i who geocoding columns' (records.map move) d = (.ok os', d') ∧
      List.Forall₂ Outcome.Matches os os' := by
  induction records generalizing d with
  | nil => exact ⟨[], [], d, rfl, rfl, .nil⟩
  | cons record rest ih =>
    obtain ⟨here, later⟩ := List.forall_mem_cons.1 matching
    obtain ⟨o, o', d₁, first, first', outcome⟩ := importRow_matches i who geocoding here d
    obtain ⟨os, os', d₂, others, others', outcomes⟩ := ih later d₁
    exact ⟨o :: os, o' :: os', d₂, importRows_cons record rest first others,
      importRows_cons _ _ first' others', .cons outcome outcomes⟩

/-- The same counts and merchants, and for every row the same problems in some order. -/
structure Report.Matches (report report' : Report) : Prop where
  total : report.total = report'.total
  rejected : report.rejected = report'.rejected
  items : report.items = report'.items
  geocoding : report.geocoding = report'.geocoding
  importedBy : report.importedBy = report'.importedBy
  errors : ∀ row, (report.errors.filter (·.row = row)).Perm (report'.errors.filter (·.row = row))

theorem errorsFrom_matches {os os' : List Outcome} (h : List.Forall₂ Outcome.Matches os os')
    (row : Nat) : (errorsFrom row os).Perm (errorsFrom row os') := by
  induction h generalizing row with
  | nil => exact .refl _
  | cons outcome _ ih =>
    rw [errorsFrom, errorsFrom]
    refine List.Perm.append ?_ (ih (row + 1))
    cases outcome with
    | imported m => exact .refl _
    | rejected problems => exact problems.map _

theorem items_matches {os os' : List Outcome} (h : List.Forall₂ Outcome.Matches os os') :
    os.filterMap Outcome.item? = os'.filterMap Outcome.item? ∧
      os.countP Outcome.isRejected = os'.countP Outcome.isRejected := by
  induction h with
  | nil => exact ⟨rfl, rfl⟩
  | cons outcome _ ih =>
    rw [items_cons, items_cons, List.countP_cons, List.countP_cons, ih.1, ih.2]
    cases outcome <;> exact ⟨rfl, rfl⟩

theorem ofOutcomes_matches {os os' : List Outcome} (h : List.Forall₂ Outcome.Matches os os') :
    (Report.ofOutcomes who geocoding os).Matches (.ofOutcomes who geocoding os') where
  total := h.length_eq
  rejected := (items_matches h).2
  items := (items_matches h).1
  geocoding := rfl
  importedBy := rfl
  errors _ := (errorsFrom_matches h firstRow).filter _

/-! ## The import of a file with its columns in another order -/

/-- Both imports fail for the same reason or have reports that match, and they leave the same
directory behind. -/
def ImportsMatch : Except Failure Report × Directory → Except Failure Report × Directory → Prop
  | (.ok report, d), (.ok report', d') => report.Matches report' ∧ d = d'
  | (.error e, d), (.error e', d') => e = e' ∧ d = d'
  | _, _ => False

section

variable (positions : order.Perm (List.range header.length))

include positions

theorem mem_of_mem_arranged {cell : String} (mem : cell ∈ arranged order header) :
    cell ∈ header := by
  obtain ⟨n, hn, rfl⟩ := List.mem_map.1 mem
  have inside : n < header.length := List.mem_range.1 (positions.mem_iff.1 hn)
  rw [List.getElem?_eq_getElem inside]
  exact List.getElem_mem inside

theorem resolve_arranged (labels : Labels) :
    ((arranged order header).filterMap labels.resolve).Perm (header.filterMap labels.resolve) := by
  rw [← entries_columns labels header [], ← entries_columns labels _ (arranged order [])]
  exact (entries_arranged positions).map _

theorem importRecords_arranged (once : (header.filterMap i.labels.resolve).Nodup)
    (unmarked : ∀ cell ∈ header, cell.toList.head? ≠ some '\uFEFF') (auto : Bool)
    (records : List (List String)) (d : Directory) :
    ImportsMatch (importRecords i who auto (header :: records) d)
      (importRecords i who auto ((header :: records).map (arranged order)) d) := by
  have matching : ∀ record ∈ records, (readRow (placed i.labels 0 header) record).Matches
      (readRow (placed i.labels 0 (arranged order header)) (arranged order record)) :=
    fun record _ => readRow_arranged positions once record
  have columns := columnsOf_distinct once unmarked
  have columns' := columnsOf_distinct ((resolve_arranged positions i.labels).nodup_iff.2 once)
    fun cell mem => unmarked cell (mem_of_mem_arranged positions mem)
  simp only [(resolve_arranged positions i.labels).mem_iff] at columns'
  cases records with
  | nil => exact ⟨rfl, rfl⟩
  | cons first rest =>
    by_cases titled : .title ∈ header.filterMap i.labels.resolve
    · rw [if_pos titled] at columns columns'
      obtain ⟨os, os', d', rows, rows', outcomes⟩ :=
        importRows_matches i who (auto && i.background) matching d
      rw [importRecords_of_rows columns (List.cons_ne_nil first rest) rows, List.map_cons,
        importRecords_of_rows columns' (by simp) rows']
      exact ⟨ofOutcomes_matches who _ outcomes, rfl⟩
    · rw [if_neg titled] at columns columns'
      rw [importRecords, columns, List.map_cons, List.map_cons, importRecords, columns']
      exact ⟨rfl, rfl⟩

end

/-- The columns of a file may stand in any order, if none is named twice. -/
theorem columns_in_any_order (i : Importer) (who : Principal) (auto : Bool) {header : List String}
    (once : (header.filterMap i.labels.resolve).Nodup)
    (unmarked : ∀ cell ∈ header, cell.toList.head? ≠ some '\uFEFF')
    (positions : order.Perm (List.range header.length)) (records : List (List String))
    (d : Directory) :
    ImportsMatch (importRecords i who auto (header :: records) d)
        (importRecords i who auto ((header :: records).map (arranged order)) d) ∧
      ∀ file file', recordsOf file = .ok (header :: records) →
        recordsOf file' = .ok ((header :: records).map (arranged order)) →
        ImportsMatch (importBytes i who auto file d) (importBytes i who auto file' d) := by
  have imports := importRecords_arranged i who positions once unmarked auto records d
  refine ⟨imports, ?_⟩
  intro file file' read read'
  rwa [importBytes_of_records read, importBytes_of_records read']

/-- Three columns and one that is not known. The first row is wrong in two cells. -/
theorem columns_in_another_order :
    let file := "title,lng,note,lat\nBakery,east,,north\nButcher,116,,39\n".toUTF8.toList
    let file' := "lat,note,title,lng\nnorth,,Bakery,east\n39,,Butcher,116\n".toUTF8.toList
    let imported (file : List UInt8) :=
      importBytes ⟨.usual, false, fun _ => none⟩ ⟨1, "ada"⟩ false file (.empty .memory default)
    ImportsMatch (imported file) (imported file') := by
  intro file file' imported
  have read : recordsOf file = .ok [["title", "lng", "note", "lat"],
      ["Bakery", "east", "", "north"], ["Butcher", "116", "", "39"]] :=
    ok_of_toOption (by decide +kernel)
  have read' : recordsOf file' = .ok ([["title", "lng", "note", "lat"],
      ["Bakery", "east", "", "north"], ["Butcher", "116", "", "39"]].map
        (arranged [3, 2, 0, 1])) := ok_of_toOption (by decide +kernel)
  exact (columns_in_any_order _ _ _ (by decide +kernel) (by decide +kernel) (by decide) _ _).2
    file file' read read'

end Gazetteer.Import
