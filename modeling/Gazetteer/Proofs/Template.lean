import Gazetteer.Proofs.CsvReading
import Gazetteer.Proofs.Headers
import Gazetteer.Proofs.Pages
import Gazetteer.Proofs.SavingBack

/-!
# The template is imported

The template is a file as an import reads one: its header has the label of every column, and its row
is one that passes. So it can be imported under the labels that it was made with, if these are told
apart from one another and from the keys. The merchant of a row that is imported carries the tags of
the caller that the row names and no other.

* `Tables.RelationsNumbered`: only merchants whose ids were given out carry tags.
* `relationsOf_entering`, `tags_newcomer`: the tags of an imported merchant.
* `importBytes_of_row`: a file with one row.
* `Labels.Separate`: labels that are told apart.
* `recordsOf_template`, `columnsOf_labels`, `readRow_sample`: how the template is read.
* `template_imports`: the import of the template.
-/

set_option autoImplicit false

namespace Gazetteer

open Text (lowercase trim)
open Text.Utf8 (encode)

/-! ## The tags of a new merchant -/

/-- Relations are those of merchants whose ids were given out. -/
def Tables.RelationsNumbered (t : Tables) : Prop :=
  ∀ l ∈ t.relations, l.merchant ≤ t.merchants.last

theorem Write.relationsNumbered {e : Engine} {who : Principal} {t t' : Tables}
    (w : Write e who t t') (h : t.RelationsNumbered) : t'.RelationsNumbered := by
  intro l hl
  obtain old | ⟨m, stored, _⟩ := w.relation_link hl
  · exact (h l old).trans w.grows.merchants.last
  · have numbered := t'.merchants.bounded m (Table.mem_of_get? stored)
    rwa [Table.key_of_get? stored] at numbered

theorem Geocoding.Linked.relationsNumbered {job : Job} {d : Directory}
    {r : Except Failure GeoPoint × Directory} (linked : Linked job d r)
    (h : d.tables.RelationsNumbered) : r.2.tables.RelationsNumbered := by
  rw [linked.repoints]
  exact h

theorem Attainable.relationsNumbered {d : Directory} (reached : Attainable d) :
    d.tables.RelationsNumbered :=
  reached.tables_keep (P := fun _ t => t.RelationsNumbered) (fun _ _ h => nomatch h)
    (fun w h => w.relationsNumbered h) fun linked h => linked.relationsNumbered h

/-- A merchant that is yet to come carries no tag. -/
theorem Tables.RelationsNumbered.relationsOf_next {t : Tables} (h : t.RelationsNumbered) :
    t.relationsOf [t.merchants.next] = [] := by
  refine List.filter_eq_nil_iff.2 ?_
  intro l stored named
  have same : l.merchant = t.merchants.next := by simpa using named
  have known := h l stored
  rw [same, Table.next] at known
  omega

theorem Attainable.tagIds_pos {d : Directory} (reached : Attainable d) :
    ∀ tag ∈ d.tables.tags.rows, 0 < tag.id := by
  intro tag stored
  obtain new | ⟨old, none, _⟩ := reached.grows.tags.rows tag stored
  · exact new
  · cases none

namespace Import

variable {who : Principal} {d : Directory}

section

variable (numbered : d.tables.RelationsNumbered) (positive : ∀ tag ∈ d.tables.tags.rows, 0 < tag.id)
  (r : Row)

include numbered positive

theorem relationsOf_entering :
    (entering who r d).relationsOf [d.tables.merchants.next] =
      (d.tables.findTagsByNames who.id r.tagNames).map fun tag =>
        ⟨d.tables.merchants.next, tag.id, d.now⟩ := by
  have tags : (ownTags who r d.tables).filter (0 < ·) = ownTags who r d.tables := by
    refine List.filter_eq_self.2 ?_
    intro id named
    obtain ⟨tag, found, rfl⟩ := List.mem_map.1 named
    exact decide_eq_true (positive tag (List.mem_filter.1 found).1)
  have before := numbered.relationsOf_next
  rw [Tables.relationsOf] at before
  rw [Tables.relationsOf, entering, tags, List.filter_append, before, List.nil_append, ownTags,
    List.map_map]
  refine List.filter_eq_self.2 ?_
  intro l new
  obtain ⟨tag, _, rfl⟩ := List.mem_map.1 new
  simp

theorem tags_newcomer :
    (newcomer who r d).tags = d.tables.findTagsByNames who.id r.tagNames := by
  show ((entering who r d).tagged [d.tables.merchants.next]).map Prod.snd = _
  rw [Tables.tagged, relationsOf_entering numbered positive, List.filterMap_map,
    List.map_filterMap]
  refine (List.filterMap_congr ?_).trans List.filterMap_some
  intro tag found
  have stored : d.tables.tags.get? tag.id = some tag :=
    Table.get?_of_mem (List.mem_filter.1 found).1
  show (((d.tables.tags.get? tag.id).map fun tag => _).map Prod.snd) = some tag
  rw [stored]
  rfl

end

/-! ## A file with one row -/

/-- The only row of a file is imported if nothing is wrong with it. -/
theorem importBytes_of_row {i : Importer} {bytes : List UInt8} {header record : List String}
    {columns : List Placed} {r : Row} (read : recordsOf bytes = .ok [header, record])
    (titled : columnsOf i.labels header = .ok columns) (tells : readRow columns record = r)
    (fine : objections i r = []) (d : Directory) :
    importBytes i who false bytes d =
      (.ok { total := 1, rejected := 0, errors := [], items := [newcomer who r d],
             geocoding := false, importedBy := who.username }, adding who false r d) := by
  subst tells
  have row : importRow i who false (readRow columns record) d = _ := importRow_of_clean fine d
  have rows : importRows i who false columns [record] d = _ := importRows_cons record [] row rfl
  have done : importRecords i who false [header, record] d = _ :=
    importRecords_of_rows titled (List.cons_ne_nil _ _) rows
  rw [importBytes_of_records read, done]
  rfl

/-! ## The header of labels -/

/-- The labels are told apart from one another and from the keys of other columns, and as header
cells they are read as they are. -/
structure Labels.Separate (labels : Labels) : Prop where
  trimmed : ∀ c, trim (labels c) = labels c
  unmarked : ∀ c, (labels c).toList.head? ≠ some '\uFEFF'
  distinct : ∀ c c', lowercase (labels c) = lowercase (labels c') → c = c'
  foreign : ∀ c c', lowercase (labels c) = c'.key → c = c'

variable {labels : Labels}

theorem Labels.resolve_label (h : labels.Separate) (c : Column) :
    labels.resolve (labels c) = some c := by
  rw [Labels.resolve_eq_some_iff, h.trimmed]
  refine ⟨Labels.names_iff.2 (.inr rfl), ?_⟩
  intro c' before
  refine Bool.eq_false_iff.2 fun named => Column.ne_of_mem_before before ?_
  obtain key | label := Labels.names_iff.1 named
  · exact (h.foreign c c' key).symm
  · exact (h.distinct c c' label).symm

/-- The columns in the order of the template. -/
def templateColumns : List Placed := Column.all.zipIdx.map fun x => ⟨x.2, x.1⟩

theorem columnsOf_labels (h : labels.Separate) :
    columnsOf labels (Column.all.map labels) = .ok templateColumns := by
  refine columnsOf_named ?_ (by decide) (by decide) ?_
  · rw [List.forall₂_map_left_iff, List.forall₂_same]
    intro c _
    exact Labels.resolve_label h c
  · intro cell mem
    obtain ⟨c, _, rfl⟩ := List.mem_map.1 mem
    exact h.unmarked c

theorem recordsOf_template (h : labels.Separate) :
    recordsOf (encode (template labels)) = .ok [Column.all.map labels, sample] := by
  have some : ∀ record ∈ [Column.all.map labels, sample], record ≠ [] := by
    intro record mem
    obtain rfl | rfl : record = _ ∨ record = _ := by simpa using mem
    · exact List.cons_ne_nil _ _
    · exact List.cons_ne_nil _ _
  have unmarked : (template labels).toList.head? ≠ .some '\uFEFF' :=
    Csv.head?_write (by decide) (by decide) (by decide) (h.unmarked .title)
  rw [recordsOf, template, Csv.records_write some unmarked]

/-! ## The sample row -/

/-- What the sample row says. -/
def sampleRow : Row where
  fields := { MerchantFields.blank with
    title := "示例商户", address := "北京市朝阳区建国门外大街1号", phone := "010-12345678",
    city := "北京", area := "朝阳区", description := "这是一个示例商户",
    longitude := some 116.397128, latitude := some 39.916527 }
  tagNames := ["餐饮", "服务"]
  problems := []

theorem readRow_sample : readRow templateColumns sample = sampleRow := by rfl

theorem objections_sample {i : Importer} (answered : i.outage sampleRow.tagNames = none) :
    objections i sampleRow = [] := by
  have lookup : lookupFailure? i sampleRow.tagNames = none := answered
  have passes : sampleRow.fields.check.isOk = true := by decide +kernel
  obtain ⟨_, checked⟩ := ok_of_isOk passes
  rw [objections, lookup, checked]
  rfl

/-- The columns of the merchant are those of the sample row. -/
structure IsSample (m : Merchant) : Prop where
  texts : sample = [m.title, m.address, m.phone, m.city, m.area, m.description, "餐饮,服务",
    "116.397128", "39.916527"]
  longitude : m.longitude = some 116.397128
  latitude : m.latitude = some 39.916527

theorem isSample_newcomer (who : Principal) (d : Directory) :
    IsSample (newcomer who sampleRow d) where
  texts := by rfl
  longitude := by rfl
  latitude := by rfl

/-- Its place is kept as it is by both engines. -/
theorem stored_sample (who : Principal) (d : Directory) :
    (entering who sampleRow d).merchants.get? (newcomer who sampleRow d).id =
      some (newcomer who sampleRow d).row := by
  have place (e : Engine) : (some 116.397128).map e.keptFloat = some 116.397128 ∧
      (some 39.916527).map e.keptFloat = some 39.916527 := by
    cases e <;> decide +kernel
  have kept : d.engine.keptMerchant (newcomer who sampleRow d) =
      (newcomer who sampleRow d).row := by
    obtain ⟨_, longitude, latitude⟩ := isSample_newcomer who d
    rw [Engine.keptMerchant, longitude, latitude, (place _).1, (place _).2, ← longitude, ← latitude]
    rfl
  rw [← kept]
  exact Table.get?_insert_self _ _

/-- The template is imported under the labels that it was made with. Its row is imported with the
tags of the caller that have one of the names in the row. -/
theorem template_imports {d : Directory} (reached : Attainable d) {i : Importer}
    (separate : i.labels.Separate) (answered : i.outage ["餐饮", "服务"] = none) (who : Principal)
    (moment : Timestamp) :
    let tags := d.tables.tags.rows.filter fun tag =>
      tag.owner = who.id && ["餐饮", "服务"].contains (lowercase tag.name)
    ∃ m d', importBytes i who false (encode (template i.labels)) { d with now := moment } =
        (.ok { total := 1, rejected := 0, errors := [], items := [m], geocoding := false,
               importedBy := who.username }, d') ∧
      IsSample m ∧ d'.tables.merchants.get? m.id = some m.row ∧
      m.tags = tags ∧ (d'.tables.relationsOf [m.id]).map Relation.tag = tags.map Tag.id := by
  intro tags
  let ready : Directory := { d with now := moment }
  have numbered : ready.tables.RelationsNumbered := reached.relationsNumbered
  have positive : ∀ tag ∈ ready.tables.tags.rows, 0 < tag.id := reached.tagIds_pos
  have found : ready.tables.findTagsByNames who.id sampleRow.tagNames = tags := by
    have wanted : sampleRow.tagNames.map (fun n => lowercase (trim n)) = ["餐饮", "服务"] := by
      decide +kernel
    rw [Tables.findTagsByNames, wanted]
  have linked : (entering who sampleRow ready).relationsOf [ready.tables.merchants.next] = _ :=
    relationsOf_entering numbered positive sampleRow
  rw [found] at linked
  refine ⟨newcomer who sampleRow ready, adding who false sampleRow ready, ?_, ?_, ?_, ?_, ?_⟩
  · exact importBytes_of_row (recordsOf_template separate) (columnsOf_labels separate)
      readRow_sample (objections_sample answered) ready
  · exact isSample_newcomer who ready
  · exact stored_sample who ready
  · rw [tags_newcomer numbered positive, found]
  · show ((entering who sampleRow ready).relationsOf [ready.tables.merchants.next]).map _ = _
    rw [linked, List.map_map]
    rfl

/-- Labels with commas, quotes and line ends. Of the two tags in the row the importer has one, and
another user has the other one. -/
theorem template_of_quoted_labels :
    let labels := (Labels.usual.choose .title "Name, \"full\"").choose .city "Town\nor city"
    let ada : Principal := ⟨1, "ada"⟩
    let d := advance [.call ⟨ada, default, .tags (.create ⟨"餐饮", "", "", "", ""⟩)⟩,
      .call ⟨⟨2, "bob"⟩, default, .tags (.create ⟨"服务", "", "", "", ""⟩)⟩]
      (.empty .sqlite default)
    ∃ m d', importBytes ⟨labels, false, fun _ => none⟩ ada false (encode (template labels)) d =
        (.ok { total := 1, rejected := 0, errors := [], items := [m], geocoding := false,
               importedBy := "ada" }, d') ∧
      IsSample m ∧ m.tags.map Tag.id = [1] ∧
      (d'.tables.relationsOf [m.id]).map Relation.tag = [1] := by
  intro labels ada d
  have reached : Attainable d := ⟨.sqlite, default, _, rfl⟩
  have apart : ∀ c ∈ Column.all, trim (labels c) = labels c ∧
      (labels c).toList.head? ≠ some '\uFEFF' ∧ ∀ c' ∈ Column.all,
        (lowercase (labels c) = lowercase (labels c') ∨ lowercase (labels c) = c'.key) →
        c = c' := by
    decide +kernel
  have separate : labels.Separate :=
    ⟨fun c => (apart c c.mem_all).1, fun c => (apart c c.mem_all).2.1,
      fun c c' same => (apart c c.mem_all).2.2 c' c'.mem_all (.inl same),
      fun c c' same => (apart c c.mem_all).2.2 c' c'.mem_all (.inr same)⟩
  obtain ⟨m, d', done, said, _, tags, linked⟩ :=
    template_imports reached (i := ⟨labels, false, fun _ => none⟩) separate rfl ada d.now
  have own : (d.tables.tags.rows.filter fun tag =>
      tag.owner = ada.id && ["餐饮", "服务"].contains (lowercase tag.name)).map Tag.id = [1] := by
    decide +kernel
  refine ⟨m, d', done, said, ?_, ?_⟩
  · rw [tags]
    exact own
  · rw [linked]
    exact own

end Import

end Gazetteer
