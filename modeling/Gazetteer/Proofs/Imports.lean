import Gazetteer.Proofs.Lookups

/-!
# What an import does to a directory

A row is rejected and leaves everything alone, or its merchant is created and its address may be
put into the queue. So an import can fail only before its first row.

* `jobsOf`: the job of an imported merchant, if it has one.
* `RowDone`: what can come of a row.
* `importRows_ok`, `drain_ok`: rows and jobs never end an import.
* `importBytes_each`, `runJobs_keeps`: what every row or job keeps, all of them keep.
-/

set_option autoImplicit false

namespace Gazetteer

namespace Import

/-- The job of an imported merchant, if its address is to be resolved. -/
def jobsOf (geocoding : Bool) (m : Merchant) : List Job :=
  if geocoding && !Text.isBlankText m.address then [job m] else []

theorem submitAddress_apply (geocoding : Bool) (m : Merchant) (d : Directory) :
    submitAddress geocoding m d = (.ok (), { d with queue := d.queue ++ jobsOf geocoding m }) := by
  rw [submitAddress, jobsOf]
  split
  · rfl
  · rw [List.append_nil]
    rfl

/-- What can come of a row: it is rejected for some reason, or its merchant is created. -/
inductive RowDone (i : Importer) (who : Principal) (geocoding : Bool) (r : Row) (d : Directory) :
    Except Failure Outcome × Directory → Prop
  | rejected (ps : List Problem) (ne : ps ≠ []) :
    RowDone i who geocoding r d (.ok (.rejected ps), d)
  | imported (tags : List Int) (m : Merchant) (d' : Directory) (clean : r.problems = [])
    (named : tagIds i who r.tagNames d.tables = .ok tags)
    (created : Merchants.create who (r.draft tags) d = (.ok m, d')) :
    RowDone i who geocoding r d
      (.ok (.imported m), { d' with queue := d'.queue ++ jobsOf geocoding m })

theorem create_of_error {who : Principal} {draft : MerchantDraft} {d d' : Directory} {e : Failure}
    (h : Merchants.create who draft d = (.error e, d')) : d' = d := by
  rw [Merchants.create_eq] at h
  exact (Action.guarded_eq_error h).2

theorem importRow_done (i : Importer) (who : Principal) (geocoding : Bool) (r : Row)
    (d : Directory) : RowDone i who geocoding r d (importRow i who geocoding r d) := by
  rw [importRow]
  cases hp : r.problems with
  | cons p ps => exact .rejected (p :: ps) (List.cons_ne_nil _ _)
  | nil =>
    simp only [List.isEmpty_nil, Bool.not_true, Bool.false_eq_true, if_false, Action.bind_apply,
      Action.read_apply]
    cases ht : tagIds i who r.tagNames d.tables with
    | error reason => exact .rejected [_] (List.cons_ne_nil _ _)
    | ok tags =>
      simp only [Action.bind_apply, Action.attempt_apply]
      cases hc : Merchants.create who (r.draft tags) d with
      | mk made d' =>
        cases made with
        | error e =>
          obtain rfl := create_of_error hc
          exact .rejected [_] (List.cons_ne_nil _ _)
        | ok m =>
          simp only [Action.bind_apply, submitAddress_apply]
          exact .imported tags m d' hp ht hc

theorem importRow_ok (i : Importer) (who : Principal) (geocoding : Bool) (r : Row)
    (d : Directory) : ∃ o d', importRow i who geocoding r d = (.ok o, d') := by
  have h := importRow_done i who geocoding r d
  generalize importRow i who geocoding r d = done at h
  cases h with
  | rejected ps _ => exact ⟨_, _, rfl⟩
  | imported tags m d' => exact ⟨_, _, rfl⟩

theorem importRows_ok (i : Importer) (who : Principal) (geocoding : Bool) (columns : List Placed)
    (records : List (List String)) (d : Directory) :
    ∃ os d', importRows i who geocoding columns records d = (.ok os, d') := by
  induction records generalizing d with
  | nil => exact ⟨[], d, rfl⟩
  | cons record rest ih =>
    obtain ⟨o, d₁, h₁⟩ := importRow_ok i who geocoding (readRow columns record) d
    obtain ⟨os, d₂, h₂⟩ := ih d₁
    refine ⟨o :: os, d₂, ?_⟩
    rw [importRows, Action.bind_of_ok h₁, Action.bind_of_ok h₂]
    rfl

/-- What every row keeps, the rows of an import keep, and what can be said of every outcome is said
of all of them. -/
theorem importRows_each {P : Directory → Prop} {Q : Outcome → Prop} {i : Importer}
    {who : Principal} {geocoding : Bool}
    (row : ∀ r d o d', P d → importRow i who geocoding r d = (.ok o, d') → P d' ∧ Q o)
    {columns : List Placed} {records : List (List String)} {d d' : Directory} {os : List Outcome}
    (start : P d) (done : importRows i who geocoding columns records d = (.ok os, d')) :
    P d' ∧ ∀ o ∈ os, Q o := by
  induction records generalizing d os with
  | nil =>
    cases done
    exact ⟨start, by simp⟩
  | cons record rest ih =>
    obtain ⟨o, d₁, h₁⟩ := importRow_ok i who geocoding (readRow columns record) d
    obtain ⟨os', d₂, h₂⟩ := importRows_ok i who geocoding columns rest d₁
    rw [importRows, Action.bind_of_ok h₁, Action.bind_of_ok h₂] at done
    cases done
    obtain ⟨first, outcome⟩ := row _ d o d₁ start h₁
    obtain ⟨last, others⟩ := ih first h₂
    exact ⟨last, List.forall_mem_cons.2 ⟨outcome, others⟩⟩

/-- What can come of an import: it is refused before the first row, or all its rows are done. -/
theorem importBytes_cases (i : Importer) (who : Principal) (auto : Bool) (bytes : List UInt8)
    (d : Directory) :
    (∃ e, importBytes i who auto bytes d = (.error e, d)) ∨
    ∃ columns records os d',
      importRows i who (auto && i.background) columns records d = (.ok os, d') ∧
      importBytes i who auto bytes d = (.ok (.ofOutcomes who (auto && i.background) os), d') := by
  rw [importBytes, Action.bind_apply, Action.ofExcept_apply]
  cases recordsOf bytes with
  | error e => exact .inl ⟨e, rfl⟩
  | ok records =>
    cases records with
    | nil => exact .inl ⟨_, rfl⟩
    | cons header rest =>
      cases rest with
      | nil => exact .inl ⟨_, rfl⟩
      | cons first rest =>
        simp only [importRecords, Action.bind_apply, Action.ofExcept_apply]
        cases columnsOf i.labels header with
        | error e => exact .inl ⟨e, rfl⟩
        | ok columns =>
          obtain ⟨os, d', h⟩ :=
            importRows_ok i who (auto && i.background) columns (first :: rest) d
          refine .inr ⟨columns, first :: rest, os, d', h, ?_⟩
          simp only [h]
          rfl

/-- What every row keeps, an import keeps, and every merchant of the report is one of a row. -/
theorem importBytes_each {P : Directory → Prop} {Q : Merchant → Prop} {i : Importer}
    {who : Principal} {auto : Bool}
    (row : ∀ r d o d', P d → importRow i who (auto && i.background) r d = (.ok o, d') →
      P d' ∧ ∀ m, o = .imported m → Q m)
    (bytes : List UInt8) {d : Directory} (start : P d) :
    P (importBytes i who auto bytes d).2 ∧
      ∀ report, (importBytes i who auto bytes d).1 = .ok report → ∀ m ∈ report.items, Q m := by
  obtain ⟨e, refused⟩ | ⟨columns, records, os, d', rows, done⟩ :=
    importBytes_cases i who auto bytes d
  · rw [refused]
    exact ⟨start, fun _ h => nomatch h⟩
  · obtain ⟨last, outcomes⟩ := importRows_each row start rows
    rw [done]
    refine ⟨last, ?_⟩
    rintro report ⟨⟩ m hm
    obtain ⟨o, ho, item⟩ := List.mem_filterMap.1 hm
    cases o with
    | rejected ps => cases item
    | imported m' =>
      cases item
      exact outcomes _ ho m rfl

/-- What every row keeps, an import keeps. -/
theorem importBytes_keeps {P : Directory → Prop} {i : Importer} {who : Principal} {auto : Bool}
    (row : ∀ r d, P d → P (importRow i who (auto && i.background) r d).2) (bytes : List UInt8)
    {d : Directory} (start : P d) : P (importBytes i who auto bytes d).2 := by
  refine (importBytes_each (Q := fun _ => True) ?_ bytes start).1
  intro r d o d' before done
  have after := row r d before
  rw [done] at after
  exact ⟨after, fun _ _ => trivial⟩

end Import

namespace Geocoding

theorem runJob_apply (chain : List Provider) (job : Job) (d : Directory) :
    runJob chain job d = (.ok (), (link chain job d).2) := rfl

theorem runJobs_ok (chain : List Provider) (jobs : List Job) (d : Directory) :
    ∃ d', runJobs chain jobs d = (.ok (), d') := by
  induction jobs generalizing d with
  | nil => exact ⟨d, rfl⟩
  | cons job rest ih =>
    rw [runJobs, Action.bind_of_ok (runJob_apply chain job d)]
    exact ih _

/-- What every link keeps, jobs one after another keep. -/
theorem runJobs_keeps {P : Directory → Prop} {chain : List Provider}
    (job : ∀ job d, P d → P (link chain job d).2) (jobs : List Job) {d : Directory} (start : P d) :
    P (runJobs chain jobs d).2 := by
  induction jobs generalizing d with
  | nil => exact start
  | cons first rest ih =>
    rw [runJobs, Action.bind_of_ok (runJob_apply chain first d)]
    exact ih (job first d start)

theorem drain_ok (s : Schedule) (chain : List Provider) (d : Directory) :
    ∃ d', drain s chain d = (.ok (), d') :=
  runJobs_ok chain (s.order d.queue) { d with queue := [] }

end Geocoding

end Gazetteer
