import Gazetteer.Proofs.ImportRows
import Mathlib

/-!
# What an import reports

The report on an import accounts for every row of the file, and a rejected row leaves no trace:
without the rejected rows the import comes to the same directory.

* `Report.Accounts`: a report that keeps its books on the outcomes of some rows.
* `mem_rowsOf`, `card_rowsOf`: the row numbers in a list of errors.
* `Report.spared`: the records that a report does not complain about.
* `importBytes_accounts`: every report of an import.
-/

set_option autoImplicit false

namespace Gazetteer.Import

/-! ## The rows of errors -/

/-- Every rejection has a reason. -/
def Explained (os : List Outcome) : Prop := ∀ o ∈ os, o.isRejected = true → o.problems ≠ []

theorem importRows_explained {i : Importer} {who : Principal} {geocoding : Bool}
    {columns : List Placed} {records : List (List String)} {d d' : Directory} {os : List Outcome}
    (done : importRows i who geocoding columns records d = (.ok os, d')) : Explained os := by
  refine (importRows_each (P := fun _ => True) ?_ trivial done).2
  intro r d o d' _ row
  have h := importRow_done i who geocoding r d
  rw [row] at h
  cases h with
  | rejected ps ne => exact ⟨trivial, fun _ => ne⟩
  | imported tags m d' => exact ⟨trivial, fun h => nomatch h⟩

/-- The numbers of the rows that errors are about. -/
def rowsOf (errors : List RowError) : List Nat := errors.map RowError.row

theorem rowsOf_cons (n : Nat) (o : Outcome) (rest : List Outcome) :
    rowsOf (errorsFrom n (o :: rest)) =
      List.replicate o.problems.length n ++ rowsOf (errorsFrom (n + 1) rest) := by
  have here : (o.problems.map (RowError.mk n)).map RowError.row =
      List.replicate o.problems.length n := by
    rw [List.map_map]
    exact List.map_const' ..
  rw [errorsFrom, rowsOf, List.map_append, here]
  rfl

theorem rowsOf_bounds (n : Nat) (os : List Outcome) :
    ∀ x ∈ rowsOf (errorsFrom n os), n ≤ x ∧ x < n + os.length := by
  induction os generalizing n with
  | nil => exact fun _ h => nomatch h
  | cons o rest ih =>
    intro x hx
    rw [rowsOf_cons] at hx
    rw [List.length_cons]
    obtain here | later := List.mem_append.1 hx
    · obtain rfl := List.eq_of_mem_replicate here
      omega
    · have := ih (n + 1) x later
      omega

theorem rowsOf_ordered (n : Nat) (os : List Outcome) :
    (rowsOf (errorsFrom n os)).Pairwise (· ≤ ·) := by
  induction os generalizing n with
  | nil => exact .nil
  | cons o rest ih =>
    rw [rowsOf_cons]
    refine List.pairwise_append.2 ⟨List.pairwise_replicate.2 (.inr (Nat.le_refl n)), ih (n + 1), ?_⟩
    intro x hx y hy
    obtain rfl := List.eq_of_mem_replicate hx
    have := rowsOf_bounds _ rest y hy
    omega

theorem mem_rowsOf (n k : Nat) (os : List Outcome) :
    n + k ∈ rowsOf (errorsFrom n os) ↔ ∃ o, os[k]? = some o ∧ o.problems ≠ [] := by
  induction os generalizing n k with
  | nil => simp [errorsFrom, rowsOf]
  | cons o rest ih =>
    have later := rowsOf_bounds (n + 1) rest (n + k)
    rw [rowsOf_cons, List.mem_append, List.mem_replicate]
    cases k with
    | zero =>
      have absent : n ∉ rowsOf (errorsFrom (n + 1) rest) := by
        intro h
        have := later h
        omega
      simp [absent]
    | succ k =>
      have shifted : n + (k + 1) = n + 1 + k := by omega
      rw [shifted, ih, List.getElem?_cons_succ]
      refine or_iff_right ?_
      rintro ⟨_, same⟩
      omega

/-- As many different rows have errors as rows were rejected. -/
theorem card_rowsOf (n : Nat) {os : List Outcome} (explained : Explained os) :
    (rowsOf (errorsFrom n os)).toFinset.card = os.countP Outcome.isRejected := by
  induction os generalizing n with
  | nil => rfl
  | cons o rest ih =>
    have others := ih (n + 1) fun o ho => explained o (List.mem_cons_of_mem _ ho)
    rw [rowsOf_cons, List.toFinset_append]
    cases o with
    | imported m =>
      rw [List.countP_cons_of_neg (by simp [Outcome.isRejected])]
      simpa [Outcome.problems] using others
    | rejected ps =>
      have reasons : ps.length ≠ 0 := by
        rw [Ne, List.length_eq_zero_iff]
        exact explained _ List.mem_cons_self rfl
      have new : n ∉ (rowsOf (errorsFrom (n + 1) rest)).toFinset := by
        intro h
        have := rowsOf_bounds (n + 1) rest n (List.mem_toFinset.1 h)
        omega
      rw [List.countP_cons_of_pos rfl, Outcome.problems, List.toFinset_replicate_of_ne_zero reasons,
        ← Finset.insert_eq, Finset.card_insert_of_notMem new, others]

/-! ## Reports -/

/-- The report keeps its books on rows with these outcomes: every row is imported or rejected, and
the errors are about the rejected rows, in the order of the file. -/
structure Report.Accounts (report : Report) (outcomes : List Outcome) : Prop where
  total : report.total = outcomes.length
  items : report.items = outcomes.filterMap Outcome.item?
  sum : report.total = report.items.length + report.rejected
  within : ∀ x ∈ rowsOf report.errors, 2 ≤ x ∧ x ≤ report.total + 1
  ordered : (rowsOf report.errors).Pairwise (· ≤ ·)
  distinct : report.rejected = (rowsOf report.errors).toFinset.card
  traced : ∀ k (h : k < outcomes.length),
    firstRow + k ∈ rowsOf report.errors ↔ outcomes[k].item? = none

theorem length_items (os : List Outcome) :
    os.length = (os.filterMap Outcome.item?).length + os.countP Outcome.isRejected := by
  induction os with
  | nil => rfl
  | cons o rest ih =>
    rw [List.length_cons, ih]
    cases o with
    | imported m =>
      rw [List.countP_cons_of_neg (by simp [Outcome.isRejected])]
      exact Nat.add_right_comm ..
    | rejected ps =>
      rw [List.countP_cons_of_pos rfl]
      exact Nat.add_assoc ..

theorem problems_ne_nil_iff {os : List Outcome} (explained : Explained os) {o : Outcome}
    (ho : o ∈ os) : o.problems ≠ [] ↔ o.item? = none := by
  cases o with
  | imported m => simp [Outcome.problems, Outcome.item?]
  | rejected ps => simpa [Outcome.item?] using explained _ ho rfl

theorem ofOutcomes_accounts (who : Principal) (geocoding : Bool) {os : List Outcome}
    (explained : Explained os) : (Report.ofOutcomes who geocoding os).Accounts os where
  total := rfl
  items := rfl
  sum := length_items os
  within := by
    intro x hx
    have bounds := rowsOf_bounds firstRow os x hx
    rw [firstRow] at bounds
    show 2 ≤ x ∧ x ≤ os.length + 1
    omega
  ordered := rowsOf_ordered firstRow os
  distinct := (card_rowsOf firstRow explained).symm
  traced := by
    intro k h
    have named := mem_rowsOf firstRow k os
    rw [List.getElem?_eq_getElem h] at named
    refine named.trans ?_
    rw [← problems_ne_nil_iff explained (List.getElem_mem h)]
    exact ⟨fun ⟨o, same, ne⟩ => Option.some.inj same ▸ ne, fun ne => ⟨_, rfl, ne⟩⟩

/-! ## Without the rejected rows -/

/-- The records under the header that a report has no errors on. -/
def Report.spared (report : Report) (records : List (List String)) : List (List String) :=
  ((records.zipIdx firstRow).filter fun x => !(rowsOf report.errors).contains x.2).map Prod.fst

theorem spared_ofOutcomes {i : Importer} {who : Principal} {geocoding : Bool}
    {columns : List Placed} {records : List (List String)} {os : List Outcome}
    (explained : Explained os)
    (same : os.map Outcome.isRejected = records.map fun record => !accepts i columns record) :
    (Report.ofOutcomes who geocoding os).spared records = records.filter (accepts i columns) := by
  have judged : ∀ x ∈ records.zipIdx firstRow,
      (!(rowsOf (errorsFrom firstRow os)).contains x.2) = accepts i columns x.1 := by
    rintro ⟨record, n⟩ hx
    obtain ⟨low, here⟩ := List.mk_mem_zipIdx_iff_le_and_getElem?_sub.1 hx
    obtain ⟨k, rfl⟩ := Nat.exists_eq_add_of_le low
    rw [Nat.add_sub_cancel_left] at here
    have verdict : os[k]?.map Outcome.isRejected = some !accepts i columns record := by
      rw [← List.getElem?_map, same, List.getElem?_map, here]
      rfl
    obtain ⟨o, ho, rejected⟩ := Option.map_eq_some_iff.1 verdict
    have listed : firstRow + k ∈ rowsOf (errorsFrom firstRow os) ↔ o.isRejected = true := by
      rw [mem_rowsOf]
      have reasons := problems_ne_nil_iff explained (List.mem_of_getElem? ho)
      have none : o.item? = none ↔ o.isRejected = true := by
        cases o <;> simp [Outcome.item?, Outcome.isRejected]
      refine Iff.trans ⟨?_, fun h => ⟨o, ho, h⟩⟩ (reasons.trans none)
      rintro ⟨o', ho', ne⟩
      exact Option.some.inj (ho.symm.trans ho') ▸ ne
    rw [rejected] at listed
    cases accepted : accepts i columns record <;> simpa [accepted] using listed
  have kept := List.filter_congr judged
  have names : (records.zipIdx firstRow).map Prod.fst = records := List.zipIdx_map_fst ..
  conv_rhs => rw [← names, List.filter_map]
  exact congrArg (List.map Prod.fst) kept

/-! ## Every import -/

/-- What is found by a second import of the records that a report does not complain about: the same
merchants, and nothing to complain about. -/
structure Report.Confirms (clean report : Report) : Prop where
  items : clean.items = report.items
  total : clean.total = report.items.length
  errors : clean.errors = []
  rejected : clean.rejected = 0

theorem filterMap_item_filter (os : List Outcome) :
    (os.filter fun o => !o.isRejected).filterMap Outcome.item? =
      os.filterMap Outcome.item? := by
  induction os with
  | nil => rfl
  | cons o rest ih =>
    cases o with
    | imported m => exact congrArg (m :: ·) ih
    | rejected ps => exact ih

theorem errorsFrom_eq_nil (n : Nat) {os : List Outcome} (fine : ∀ o ∈ os, o.isRejected = false) :
    errorsFrom n os = [] := by
  induction os generalizing n with
  | nil => rfl
  | cons o rest ih =>
    have first := fine o List.mem_cons_self
    rw [errorsFrom, ih (n + 1) fun o ho => fine o (List.mem_cons_of_mem _ ho)]
    cases o with
    | imported m => rfl
    | rejected ps => cases first

theorem ofOutcomes_confirms (who : Principal) (geocoding : Bool) (os : List Outcome) :
    (Report.ofOutcomes who geocoding (os.filter fun o => !o.isRejected)).Confirms
      (.ofOutcomes who geocoding os) := by
  have fine : ∀ o ∈ os.filter fun o => !o.isRejected, o.isRejected = false := by
    intro o ho
    simpa using (List.mem_filter.1 ho).2
  have none : (os.filter fun o => !o.isRejected).countP Outcome.isRejected = 0 :=
    List.countP_eq_zero.2 fun o ho => by simp [fine o ho]
  have items := filterMap_item_filter os
  have total := length_items (os.filter fun o => !o.isRejected)
  rw [none, items, Nat.add_zero] at total
  exact ⟨items, total, errorsFrom_eq_nil firstRow fine, none⟩

/-- An import that answers accounts for every row of its file: a row is imported and stored, or it
is named in the errors. Without the rows that are named, the same merchants are imported, nothing is
reported and the directory is the same. -/
theorem importBytes_accounts {i : Importer} {who : Principal} {auto : Bool} {bytes : List UInt8}
    {d d' : Directory} {report : Report}
    (done : importBytes i who auto bytes d = (.ok report, d')) :
    ∃ header records columns outcomes, recordsOf bytes = .ok (header :: records) ∧
      columnsOf i.labels header = .ok columns ∧
      importRows i who (auto && i.background) columns records d = (.ok outcomes, d') ∧
      outcomes.length = records.length ∧
      report.Accounts outcomes ∧
      d'.tables.merchants.rows =
        d.tables.merchants.rows ++ report.items.map d.engine.keptMerchant ∧
      (report.items ≠ [] → ∃ clean : Report, clean.Confirms report ∧
        importRecords i who auto (header :: report.spared records) d = (.ok clean, d') ∧
        ∀ file, recordsOf file = .ok (header :: report.spared records) →
          importBytes i who auto file d = (.ok clean, d')) := by
  obtain ⟨header, records, columns, os, read, titled, rows, rfl⟩ := records_of_importBytes done
  obtain ⟨same, kept⟩ := importRows_accepted rows
  have explained := importRows_explained rows
  refine ⟨header, records, columns, os, read, titled, rows, length_importRows rows,
    ofOutcomes_accounts who _ explained, (importRows_brings rows).merchants, ?_⟩
  intro imported
  rw [spared_ofOutcomes explained same]
  have some : records.filter (accepts i columns) ≠ [] := by
    intro none
    rw [none] at kept
    have nothing : os.filter (fun o => !o.isRejected) = [] :=
      (Except.ok.inj (congrArg Prod.fst kept)).symm
    refine imported ?_
    show os.filterMap Outcome.item? = []
    rw [← filterMap_item_filter, nothing]
    rfl
  have again : importRecords i who auto (header :: records.filter (accepts i columns)) d = _ :=
    importRecords_of_rows titled some kept
  refine ⟨_, ofOutcomes_confirms who _ os, again, ?_⟩
  intro file read'
  rw [importBytes_of_records read', again]

/-- Two of five rows are imported. The second one has two faults, the tags of the third one cannot
be looked up, and the phone number of the last one is too long. -/
theorem importBytes_accounts_of_street :
    let outage := fun names : List String =>
      if names.contains "boom" then some "no answer" else none
    let i : Importer := ⟨.usual, true, outage⟩
    let file := ("title,address,phone,lng,tags\nBakery,Main Street 1,,116.4,food\n,,,200,\n" ++
      "Butcher,,,,boom\nFlorist,Main Street 2,,,\nKiosk,,012345678901234567890,,\n").toUTF8.toList
    let d := Directory.empty .sqlite default
    ∃ report d', importBytes i ⟨1, "ada"⟩ true file d = (.ok report, d') ∧
      rowsOf report.errors = [3, 3, 4, 6] ∧ report.rejected = 3 ∧ report.items.length = 2 ∧
      ∃ header records, ∃ clean : Report, recordsOf file = .ok (header :: records) ∧
        clean.Confirms report ∧
        importRecords i ⟨1, "ada"⟩ true (header :: report.spared records) d = (.ok clean, d') := by
  intro outage i file d
  have summary : ((importBytes i ⟨1, "ada"⟩ true file d).1.toOption.map fun r =>
      (rowsOf r.errors, r.total)) = some ([3, 3, 4, 6], 5) := by decide +kernel
  obtain ⟨report, answered, counted⟩ := ok_of_toOption_map summary
  obtain ⟨rows, total⟩ := Prod.mk.inj counted
  have done : importBytes i ⟨1, "ada"⟩ true file d =
    (.ok report, (importBytes i ⟨1, "ada"⟩ true file d).2) := Prod.ext answered rfl
  obtain ⟨header, records, _, _, read, _, _, _, books, _, again⟩ := importBytes_accounts done
  have rejected : report.rejected = 3 := by
    rw [books.distinct, rows]
    rfl
  have imported : report.items.length = 2 := by
    have sum := books.sum
    omega
  obtain ⟨clean, confirms, once, _⟩ := again (by
    intro none
    rw [none] at imported
    cases imported)
  exact ⟨report, _, done, rows, rejected, imported, header, records, clean, read, confirms, once⟩

end Gazetteer.Import
