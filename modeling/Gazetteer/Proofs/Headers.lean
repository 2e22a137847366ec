import Gazetteer.Proofs.Decisions
import Gazetteer.Proofs.ImportRows
import Mathlib

/-!
# The columns of a header

A header cell names the first column that has it as its key or its label. The columns of a header
depend on what its cells name and on nothing else. Where no column is named twice, every cell that
names one stands for it.

* `Labels.resolve_eq_some_iff`: the column that a cell names.
* `IsKey`: a cell that is the key of a column; `Labels.Spares`: the labels leave it to the column.
* `columnsOf_distinct`: the columns of a header that names none twice.
* `keys_name_columns`: a header of keys under two labellings.
-/

set_option autoImplicit false

namespace Gazetteer.Import

open Text (lowercase trim)

/-! ## The column of a cell -/

theorem find?_eq_some_iff_takeWhile {α : Type} [DecidableEq α] {l : List α} {p : α → Bool} {a : α}
    (mem : a ∈ l) :
    l.find? p = some a ↔ p a = true ∧ ∀ x ∈ l.takeWhile (· ≠ a), p x = false := by
  induction l with
  | nil => cases mem
  | cons x rest ih =>
    by_cases same : x = a
    · subst same
      cases here : p x <;> simp [here]
      intro found
      have := List.find?_some found
      rw [here] at this
      cases this
    · have later := ih ((List.mem_cons.1 mem).resolve_left (Ne.symm same))
      cases here : p x
      · simp [here, same, later]
      · simp [here, same]

namespace Column

/-- The columns in front of a column, in the order of the template. -/
def before (c : Column) : List Column := all.takeWhile (· ≠ c)

theorem ne_of_mem_before {c c' : Column} (h : c' ∈ c.before) : c' ≠ c := by
  simpa using List.mem_takeWhile_imp h

theorem key_injective {c c' : Column} (h : c.key = c'.key) : c = c' := by
  revert h
  cases c <;> cases c' <;> decide

end Column

namespace Labels

variable {labels : Labels} {cell : String} {c : Column}

theorem names_iff : labels.names cell c = true ↔ cell = c.key ∨ cell = lowercase (labels c) := by
  simp [names]

/-- A cell names a column that has it as key or label and no column in front of which does. -/
theorem resolve_eq_some_iff :
    labels.resolve cell = some c ↔ labels.names (lowercase (trim cell)) c = true ∧
      ∀ c' ∈ c.before, labels.names (lowercase (trim cell)) c' = false :=
  find?_eq_some_iff_takeWhile c.mem_all

end Labels

/-! ## Keys as header cells -/

/-- The cell is the key of a column, in any letter case and with blanks around it. -/
def IsKey (cell : String) (c : Column) : Prop := lowercase (trim cell) = c.key

instance (cell : String) (c : Column) : Decidable (IsKey cell c) :=
  inferInstanceAs (Decidable (_ = _))

/-- No column in front of it has the key of the column as its label. -/
def Labels.Spares (labels : Labels) (c : Column) : Prop :=
  ∀ c' ∈ c.before, lowercase (labels c') ≠ c.key

instance (labels : Labels) (c : Column) : Decidable (labels.Spares c) :=
  inferInstanceAs (Decidable (∀ c' ∈ c.before, _))

theorem resolve_key_iff {labels : Labels} {cell : String} {c : Column} (key : IsKey cell c) :
    labels.resolve cell = some c ↔ labels.Spares c := by
  rw [Labels.resolve_eq_some_iff, key]
  have own : labels.names c.key c = true := Labels.names_iff.2 (.inl rfl)
  have other : ∀ c' ∈ c.before,
      (labels.names c.key c' = false ↔ lowercase (labels c') ≠ c.key) := by
    intro c' before
    have keys : c.key ≠ c'.key := fun same =>
      Column.ne_of_mem_before before (Column.key_injective same).symm
    rw [← Bool.not_eq_true, Labels.names_iff, or_iff_right keys, eq_comm]
  rw [and_iff_right own]
  exact forall₂_congr other

theorem trimChars_cons {c : Char} (shown : Text.isBlank c = false) (cs : List Char) :
    ∃ rest, Text.trimChars (c :: cs) = c :: rest := by
  refine ⟨(cs.reverse.dropWhile Text.isBlank).reverse, ?_⟩
  have kept : (cs.reverse ++ [c]).dropWhile Text.isBlank =
      cs.reverse.dropWhile Text.isBlank ++ [c] := by
    rw [List.dropWhile_append]
    split
    · next none =>
      rw [List.isEmpty_iff.1 none, List.dropWhile_cons_of_neg (by simp [shown]), List.nil_append]
    · rfl
  rw [Text.trimChars, List.dropWhile_cons_of_neg (by simp [shown]), List.reverse_cons, kept,
    List.reverse_append]
  rfl

/-- A key does not begin with a byte order mark, which is not blank and has no other letter case. -/
theorem head?_of_isKey {cell : String} {c : Column} (key : IsKey cell c) :
    cell.toList.head? ≠ some '\uFEFF' := by
  intro marked
  obtain ⟨cs, chars⟩ := List.head?_eq_some_iff.1 marked
  obtain ⟨rest, trimmed⟩ := trimChars_cons (c := '\uFEFF') (by decide) cs
  have lower : (lowercase (trim cell)).toList = '\uFEFF' :: Text.lowerAfter ['\uFEFF'] rest := by
    have alone : Text.lowerChar '\uFEFF' = ['\uFEFF'] := by decide
    rw [lowercase, trim, String.toList_ofList, String.toList_ofList, chars, trimmed,
      Text.lowerAfter, if_neg (by decide), alone]
    rfl
  have bare : ∀ c : Column, c.key.toList.head? ≠ some '\uFEFF' := by
    intro c
    cases c <;> decide
  refine bare c ?_
  rw [← key, lower]
  rfl

theorem dropMarks_of_head? {cell : String} (h : cell.toList.head? ≠ some '\uFEFF') :
    dropMarks cell = cell := by
  rw [dropMarks]
  cases chars : cell.toList with
  | nil => exact (String.toList_eq_nil_iff.1 chars).symm
  | cons x rest =>
    have other : (x == '\uFEFF') = false := by simpa [chars] using h
    rw [List.dropWhile_cons_of_neg (by simp [other]), ← chars, String.ofList_toList]

theorem bareHeader_of_head? {header : List String}
    (h : ∀ cell ∈ header, cell.toList.head? ≠ some '\uFEFF') : bareHeader header = header := by
  cases header with
  | nil => rfl
  | cons cell rest => rw [bareHeader, dropMarks_of_head? (h cell List.mem_cons_self)]

/-! ## The columns of some cells -/

/-- Every cell that names a column with the column, the cells being numbered from `n` on. -/
def placed (labels : Labels) (n : Nat) (cells : List String) : List Placed :=
  (cells.zipIdx n).filterMap fun x => (labels.resolve x.1).map (⟨x.2, ·⟩)

theorem placed_cons (labels : Labels) (n : Nat) (cell : String) (rest : List String) :
    placed labels n (cell :: rest) =
      ((labels.resolve cell).map fun c => ⟨n, c⟩).toList ++ placed labels (n + 1) rest := by
  rw [placed, List.zipIdx_cons, List.filterMap_cons]
  cases labels.resolve cell <;> rfl

theorem placed_columns (labels : Labels) (n : Nat) (cells : List String) :
    (placed labels n cells).map Placed.column = cells.filterMap labels.resolve := by
  induction cells generalizing n with
  | nil => rfl
  | cons cell rest ih =>
    rw [placed_cons, List.map_append, ih, List.filterMap_cons]
    cases labels.resolve cell <;> rfl

/-- Where no column is named twice, none is passed over. -/
theorem placeColumns_distinct {labels : Labels} {cells : List String} {n : Nat}
    {seen : List Placed}
    (once : (seen.map Placed.column ++ cells.filterMap labels.resolve).Nodup) :
    placeColumns labels n seen cells = seen ++ placed labels n cells := by
  induction cells generalizing n seen with
  | nil => exact (List.append_nil seen).symm
  | cons cell rest ih =>
    rw [placeColumns, placed_cons]
    cases named : labels.resolve cell with
    | none =>
      rw [List.filterMap_cons_none named] at once
      exact ih once
    | some c =>
      rw [List.filterMap_cons_some named] at once
      have new : seen.any (·.column = c) = false := by
        have apart := (List.nodup_append.1 once).2.2
        rw [List.any_eq_false]
        intro p hp same
        exact apart p.column (List.mem_map_of_mem hp) c List.mem_cons_self (of_decide_eq_true same)
      have next : ((seen ++ [(⟨n, c⟩ : Placed)]).map Placed.column ++
          rest.filterMap labels.resolve).Nodup := by
        simpa using once
      dsimp only
      rw [new, if_neg Bool.false_ne_true, ih next, List.append_assoc]
      rfl

/-- The columns of a header that names no column twice. -/
theorem columnsOf_distinct {labels : Labels} {header : List String}
    (once : (header.filterMap labels.resolve).Nodup)
    (unmarked : ∀ cell ∈ header, cell.toList.head? ≠ some '\uFEFF') :
    columnsOf labels header =
      if .title ∈ header.filterMap labels.resolve then .ok (placed labels 0 header)
      else .error (.validation (.noTitleColumn Column.title.key (labels .title))) := by
  have columns : placeColumns labels 0 [] header = placed labels 0 header :=
    placeColumns_distinct once
  have titled : (placed labels 0 header).any (·.column = .title) = true ↔
      .title ∈ header.filterMap labels.resolve := by
    rw [← placed_columns labels 0, List.any_eq_true, List.mem_map]
    simp only [decide_eq_true_eq]
  rw [columnsOf, bareHeader_of_head? unmarked, columns]
  simp only [titled]

theorem placed_of_named {labels : Labels} {cells : List String} {cs : List Column}
    (named : List.Forall₂ (fun cell c => labels.resolve cell = some c) cells cs) (n : Nat) :
    placed labels n cells = (cs.zipIdx n).map fun x => ⟨x.2, x.1⟩ := by
  induction named generalizing n with
  | nil => rfl
  | cons first _ ih =>
    rw [placed_cons, first, ih, List.zipIdx_cons]
    rfl

/-- The columns of a header whose cells name different columns, the title among them. -/
theorem columnsOf_named {labels : Labels} {header : List String} {cs : List Column}
    (named : List.Forall₂ (fun cell c => labels.resolve cell = some c) header cs)
    (distinct : cs.Nodup) (titled : .title ∈ cs)
    (unmarked : ∀ cell ∈ header, cell.toList.head? ≠ some '\uFEFF') :
    columnsOf labels header = .ok (cs.zipIdx.map fun x => ⟨x.2, x.1⟩) := by
  have columns : header.filterMap labels.resolve = cs := by
    rw [← placed_columns labels 0, placed_of_named named, List.map_map]
    exact List.zipIdx_map_fst 0 cs
  rw [columnsOf_distinct (by rwa [columns]) unmarked, if_pos (by rwa [columns]),
    placed_of_named named]

/-! ## A header of keys -/

/-- The cells are keys of different columns, the title among them. -/
structure KeyHeader (header : List String) (cs : List Column) : Prop where
  keys : List.Forall₂ IsKey header cs
  distinct : cs.Nodup
  titled : .title ∈ cs

variable {header : List String} {cs : List Column}

theorem head?_of_keys (keys : List.Forall₂ IsKey header cs) :
    ∀ cell ∈ header, cell.toList.head? ≠ some '\uFEFF' := by
  induction keys with
  | nil => intro cell mem; cases mem
  | cons key _ ih => exact List.forall_mem_cons.2 ⟨head?_of_isKey key, ih⟩

/-- Every key stands for its column, where it is in the header. -/
theorem columnsOf_keys {labels : Labels} (header_keys : KeyHeader header cs)
    (spared : ∀ c ∈ cs, labels.Spares c) :
    columnsOf labels header = .ok (cs.zipIdx.map fun x => ⟨x.2, x.1⟩) := by
  obtain ⟨keys, distinct, titled⟩ := header_keys
  refine columnsOf_named ?_ distinct titled (head?_of_keys keys)
  refine List.forall₂_iff_zip.2 ⟨keys.length_eq, ?_⟩
  intro cell c mem
  have key := (List.forall₂_iff_zip.1 keys).2 mem
  exact (resolve_key_iff key).2 (spared c (List.of_mem_zip mem).2)

/-! ## The import of a header of keys -/

theorem importRows_labels (i : Importer) (labels : Labels) (who : Principal) (geocoding : Bool)
    (columns : List Placed) (records : List (List String)) :
    importRows { i with labels := labels } who geocoding columns records =
      importRows i who geocoding columns records := by
  induction records with
  | nil => rfl
  | cons record rest ih =>
    rw [importRows, importRows, ih]
    rfl

theorem importRecords_labels {labels labels' : Labels}
    (same : columnsOf labels header = columnsOf labels' header) (i : Importer) (who : Principal)
    (auto : Bool) (records : List (List String)) :
    importRecords { i with labels := labels } who auto (header :: records) =
      importRecords { i with labels := labels' } who auto (header :: records) := by
  cases records with
  | nil => rfl
  | cons first rest =>
    rw [importRecords, importRecords, same]
    simp only [importRows_labels]

/-- A key names its column if and only if no column in front of it is labelled with the key. A file
under such keys is imported in the same way under all such labels. -/
theorem keys_name_columns (labels labels' : Labels) :
    (∀ cell c, IsKey cell c → (labels.resolve cell = some c ↔ labels.Spares c)) ∧
    ∀ header cs, KeyHeader header cs → (∀ c ∈ cs, labels.Spares c) →
      (∀ c ∈ cs, labels'.Spares c) →
      columnsOf labels header = .ok (cs.zipIdx.map fun x => ⟨x.2, x.1⟩) ∧
      ∀ (i : Importer) (who : Principal) (auto : Bool) (bytes : List UInt8) (d : Directory),
        (∀ records, recordsOf bytes = .ok records → records.head? = some header) →
        importBytes { i with labels := labels } who auto bytes d =
          importBytes { i with labels := labels' } who auto bytes d := by
  refine ⟨fun _ _ key => resolve_key_iff key, ?_⟩
  intro header cs keys spared spared'
  have columns := columnsOf_keys keys spared
  refine ⟨columns, ?_⟩
  intro i who auto bytes d headed
  cases read : recordsOf bytes with
  | error e =>
    rw [importBytes, importBytes, read]
    rfl
  | ok file =>
    obtain ⟨records, rfl⟩ := List.head?_eq_some_iff.1 (headed file read)
    rw [importBytes_of_records read, importBytes_of_records read,
      importRecords_labels (columns.trans (columnsOf_keys keys spared').symm)]

theorem keys_name_columns_under_name :
    let labels := Labels.usual.choose .title "Name"
    let file := " TITLE,Address \nBakery,Main Street 1\n".toUTF8.toList
    let i : Importer := ⟨.usual, false, fun _ => none⟩
    labels.resolve " TITLE" = some .title ∧
      importBytes { i with labels := labels } ⟨1, "ada"⟩ false file (.empty .memory default) =
        importBytes { i with labels := .usual } ⟨1, "ada"⟩ false file (.empty .memory default) := by
  intro labels file i
  have keys : KeyHeader [" TITLE", "Address "] [.title, .address] :=
    ⟨.cons (by decide +kernel) (.cons (by decide +kernel) .nil), by decide, by decide⟩
  have spared : ∀ c ∈ [Column.title, .address], labels.Spares c := by
    decide +kernel
  have spared' : ∀ c ∈ [Column.title, .address], Labels.usual.Spares c := by
    decide +kernel
  have read : recordsOf file = .ok [[" TITLE", "Address "], ["Bakery", "Main Street 1"]] :=
    ok_of_toOption (by decide +kernel)
  obtain ⟨names, imports⟩ := keys_name_columns labels .usual
  refine ⟨(names " TITLE" .title (by decide +kernel)).2
    (spared .title List.mem_cons_self), ?_⟩
  refine (imports _ _ keys spared spared').2 i ⟨1, "ada"⟩ false file _ ?_
  intro records read'
  rw [read] at read'
  cases read'
  rfl

/-- A title that is labelled with the key of the address takes the cell of the address, and the
address in the file is lost without an error. -/
theorem key_taken_by_label :
    let labels := Labels.usual.choose .title "Address"
    let file := "title,address\nBakery,Main Street 1\n".toUTF8.toList
    let imported (labels : Labels) := importBytes ⟨labels, false, fun _ => none⟩ ⟨1, "ada"⟩ false
      file (.empty .memory default)
    let rejected (labels : Labels) := (imported labels).1.toOption.map Report.rejected
    let addresses (labels : Labels) :=
      (imported labels).2.tables.merchants.rows.map Merchant.address
    KeyHeader ["title", "address"] [.title, .address] ∧ labels.resolve "address" = some .title ∧
      rejected .usual = some 0 ∧ addresses .usual = ["Main Street 1"] ∧
      rejected labels = some 0 ∧ addresses labels = [""] := by
  have keys : KeyHeader ["title", "address"] [.title, .address] :=
    ⟨.cons (by decide +kernel) (.cons (by decide +kernel) .nil), by decide, by decide⟩
  exact ⟨keys, by decide +kernel⟩

end Gazetteer.Import
