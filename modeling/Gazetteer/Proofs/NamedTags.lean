import Gazetteer.Proofs.Colors
import Gazetteer.Proofs.LiteralSearch
import Gazetteer.Proofs.Template

/-!
# Tags by name

The tags of an imported merchant are named in a cell. A name in the cell has no blanks around it,
and it is compared with the lowercase form of stored names, which may have some. So every tag can be
named whose own name has no blanks around it, and no other.

* `Text.trimmed_lowerAfter_iff`: letter case leaves the blanks at the ends of a text alone.
* `Tables.mem_findTagsByNames_iff`: which tags are found by name.
* `Import.tagsCell`, `Import.tagNames_readRow`: the names that a row holds.
* `Import.importRows_links`: the tags of the merchants that rows bring, once all rows are imported.
* `Import.own_tags_linked`: the tags of the merchants of a file.
-/

set_option autoImplicit false

namespace Gazetteer

open Text.Utf8 (encode)
open Text (lowercase trim trimChars lowerAfter lowerChar isBlank foldAscii)

/-! ## Letter case and blanks -/

namespace Text

/-- The blank characters by their numbers. -/
def blankCodes : List Nat := [
  9, 10, 11, 12, 13, 0x20, 0x85, 0xA0, 0x1680, 0x2000, 0x2001, 0x2002, 0x2003, 0x2004, 0x2005,
  0x2006, 0x2007, 0x2008, 0x2009, 0x200A, 0x2028, 0x2029, 0x202F, 0x205F, 0x3000]

theorem isBlank_iff_mem {c : Char} : isBlank c = true ↔ c.toNat ∈ blankCodes := by
  simp only [isBlank, blankCodes, Bool.or_eq_true, Bool.and_eq_true, decide_eq_true_eq, beq_iff_eq,
    List.mem_cons, List.not_mem_nil, or_false]
  omega

/-- No blank is a capital. -/
theorem lowerChar_of_blank {c : Char} (h : isBlank c = true) : lowerChar c = [c] := by
  have known := isBlank_iff_mem.1 h
  have small : ∀ n ∈ blankCodes, n < 65 ∨ 90 < n := by decide
  have other : ∀ n ∈ blankCodes, n ≠ 0x130 := by decide
  have no_range : ∀ n ∈ blankCodes, (lowerRanges.find? fun r =>
      r.first ≤ n && n ≤ r.last && (n - r.first) % r.step == 0).isNone = true := by
    decide +kernel
  rw [lowerChar]
  by_cases ascii : c.toNat < 0x80
  · have plain : foldAscii c = c := by
      refine foldAscii_of_not_capital ?_
      rintro ⟨low, high⟩
      have low : 65 ≤ c.toNat := low
      have high : c.toNat ≤ 90 := high
      have := small _ known
      omega
    rw [if_pos ascii, plain]
  · rw [if_neg ascii, if_neg (other _ known), Option.isNone_iff_eq_none.1 (no_range _ known)]

/-- No blank is the lowercase form of something else. -/
theorem not_blank_lowerChar {c x : Char} (h : isBlank c = false) (hx : x ∈ lowerChar c) :
    isBlank x = false := by
  have no_image : ∀ r ∈ lowerRanges, ∀ b ∈ blankCodes,
      ¬ (r.first + r.shift ≤ b ∧ (b : Int) ≤ r.last + r.shift) := by
    decide +kernel
  rw [lowerChar] at hx
  by_cases ascii : c.toNat < 0x80
  · rw [if_pos ascii, List.mem_singleton] at hx
    rw [hx, (foldAscii_alike c).1, h]
  rw [if_neg ascii] at hx
  by_cases dotted : c.toNat = 0x130
  · rw [if_pos dotted] at hx
    obtain rfl | rfl : x = 'i' ∨ x = '\u0307' := by simpa using hx
    · decide
    · decide
  rw [if_neg dotted] at hx
  split at hx
  · next r found =>
    rw [List.mem_singleton] at hx
    subst hx
    have inside := List.find?_some found
    simp only [Bool.and_eq_true, decide_eq_true_eq] at inside
    refine Bool.eq_false_iff.2 fun blank => ?_
    have code := isBlank_iff_mem.1 blank
    have outside := no_image r (List.mem_of_find?_eq_some found) _ code
    have positive : ∀ b ∈ blankCodes, 0 < b := by decide
    have shown := positive _ code
    rw [Char.toNat_ofNat] at shown outside
    split at shown
    case isTrue valid =>
      rw [if_pos valid] at outside
      omega
    case isFalse => cases shown
  · rw [List.mem_singleton.1 hx, h]

theorem lowerChar_ne_nil (c : Char) : lowerChar c ≠ [] := by
  rw [lowerChar]
  split
  · exact List.cons_ne_nil _ _
  split
  · exact List.cons_ne_nil _ _
  split <;> exact List.cons_ne_nil _ _

/-- A character becomes characters that are blank as it is, and then comes the rest. -/
theorem lowerAfter_cons (before : List Char) (c : Char) (rest : List Char) : ∃ x here,
    lowerAfter before (c :: rest) = (x :: here) ++ lowerAfter (c :: before) rest ∧
      ∀ y ∈ x :: here, isBlank y = isBlank c := by
  have shape : ∃ here, here ≠ [] ∧ (∀ y ∈ here, isBlank y = isBlank c) ∧
      lowerAfter before (c :: rest) = here ++ lowerAfter (c :: before) rest := by
    rw [lowerAfter]
    refine ⟨_, ?_, ?_, rfl⟩
    · split
      · split <;> exact List.cons_ne_nil _ _
      · exact lowerChar_ne_nil c
    · split
      · next sigma =>
        subst sigma
        split <;> simp only [List.mem_singleton, forall_eq] <;> decide
      · cases blank : isBlank c with
        | true =>
          rw [lowerChar_of_blank blank]
          simpa using blank
        | false => exact fun y hy => not_blank_lowerChar blank hy
  obtain ⟨here, nonempty, alike, eq⟩ := shape
  obtain ⟨x, here, rfl⟩ := List.exists_cons_of_ne_nil nonempty
  exact ⟨x, here, eq, alike⟩

theorem head?_lowerAfter (before : List Char) (c : Char) (rest : List Char) :
    ∃ x, (lowerAfter before (c :: rest)).head? = some x ∧ isBlank x = isBlank c := by
  obtain ⟨x, here, eq, alike⟩ := lowerAfter_cons before c rest
  exact ⟨x, by rw [eq]; rfl, alike x List.mem_cons_self⟩

theorem getLast?_lowerAfter (before cs : List Char) (c : Char) :
    ∃ x, (lowerAfter before (cs ++ [c])).getLast? = some x ∧ isBlank x = isBlank c := by
  obtain ⟨front, joined⟩ := lowerAfter_suffix before cs [c]
  obtain ⟨x, here, eq, alike⟩ := lowerAfter_cons (cs.reverse ++ before) c []
  have last : (x :: here).getLast? = some ((x :: here).getLast (List.cons_ne_nil _ _)) :=
    List.getLast?_eq_getLast_of_ne_nil _
  refine ⟨(x :: here).getLast (List.cons_ne_nil _ _), ?_, alike _ (List.getLast_mem _)⟩
  rw [← joined, eq, lowerAfter, List.append_nil, List.getLast?_append, last]
  rfl

/-- The lowercase form of a text has blanks around it where the text does. -/
theorem trimmed_lowerAfter_iff (before cs : List Char) :
    Trimmed (lowerAfter before cs) ↔ Trimmed cs := by
  have front : (∀ c, (lowerAfter before cs).head? = some c → isBlank c = false) ↔
      ∀ c, cs.head? = some c → isBlank c = false := by
    cases cs with
    | nil => rfl
    | cons c rest =>
      obtain ⟨x, first, alike⟩ := head?_lowerAfter before c rest
      simp [first, alike]
  have back : (∀ c, (lowerAfter before cs).getLast? = some c → isBlank c = false) ↔
      ∀ c, cs.getLast? = some c → isBlank c = false := by
    rcases List.eq_nil_or_concat cs with rfl | ⟨rest, c, rfl⟩
    · rfl
    · obtain ⟨x, last, alike⟩ := getLast?_lowerAfter before rest c
      simp [last, alike]
  exact ⟨fun h => ⟨front.1 h.front, back.1 h.back⟩, fun h => ⟨front.2 h.front, back.2 h.back⟩⟩

theorem trim_eq_self_iff {s : String} : trim s = s ↔ Trimmed s.toList := by
  constructor
  · intro same
    rw [← same, trim, String.toList_ofList]
    exact trimmed_trimChars s.toList
  · intro h
    rw [trim, h.trimChars_eq, String.ofList_toList]

/-- Where the lowercase forms are those of a text without blanks around it, there are none. -/
theorem trim_eq_of_lowercase {s r : String} (h : lowercase s = lowercase (trim r)) :
    trim s = s := by
  have trimmed : Trimmed (lowercase (trim r)).toList := by
    rw [lowercase, String.toList_ofList, trimmed_lowerAfter_iff, trim, String.toList_ofList]
    exact trimmed_trimChars r.toList
  rw [← h, lowercase, String.toList_ofList, trimmed_lowerAfter_iff] at trimmed
  exact trim_eq_self_iff.2 trimmed

end Text

/-! ## Looking up names -/

/-- The tags that are found are those of the owner without blanks around their names, one of which
is looked for. -/
theorem Tables.mem_findTagsByNames_iff {t : Tables} {owner : Int} {names : List String}
    {tag : Tag} : tag ∈ t.findTagsByNames owner names ↔
      tag ∈ t.tags.rows ∧ tag.owner = owner ∧ trim tag.name = tag.name ∧
        ∃ name ∈ names, lowercase (trim tag.name) = lowercase (trim name) := by
  simp only [findTagsByNames, List.mem_filter, Bool.and_eq_true, decide_eq_true_eq,
    List.contains_iff_mem, List.mem_map]
  refine and_congr_right fun _ => and_congr_right fun _ => ?_
  constructor
  · rintro ⟨name, wanted, same⟩
    have bare := Text.trim_eq_of_lowercase same.symm
    exact ⟨bare, name, wanted, by rw [bare, same]⟩
  · rintro ⟨bare, name, wanted, same⟩
    exact ⟨name, wanted, by rw [← same, bare]⟩

namespace Import

/-! ## The names of a cell -/

theorem splitOn_of_not_mem {sep : Char} {cs : List Char} (h : sep ∉ cs) :
    Text.splitOn sep cs = [cs] := by
  induction cs with
  | nil => rfl
  | cons c rest ih =>
    obtain ⟨other, later⟩ := List.ne_and_not_mem_of_not_mem_cons h
    rw [Text.splitOn, if_neg (by simpa using Ne.symm other), ih later]

theorem splitNames_empty : splitNames "" = [] := by decide +kernel

/-- A text without commas holds one name. -/
theorem splitNames_of_bare {s : String} (narrow : ',' ∉ s.toList) (wide : '，' ∉ s.toList)
    (bare : trim s = s) (shown : s ≠ "") : splitNames s = [s] := by
  have trimmed := Text.trim_eq_self_iff.1 bare
  rw [splitNames, splitOn_of_not_mem narrow]
  simp only [List.flatMap_singleton, splitOn_of_not_mem wide, List.map_singleton,
    trimmed.trimChars_eq, String.ofList_toList]
  simp [shown]

/-! ## The cell of the tags -/

/-- Where the tags stand. -/
def Placed.isTags (p : Placed) : Bool := p.column = .tags

/-- The cell of a record under the column of the tags; blank if there is no such column. -/
def tagsCell (columns : List Placed) (record : List String) : String :=
  ((columns.find? Placed.isTags).bind fun p => record[p.index]?).getD ""

theorem tagNames_sayCell_of_not {p : Placed} (other : p.isTags = false) (record : List String)
    (r : Row) : (r.sayCell record p).tagNames = r.tagNames := by
  rw [Row.sayCell]
  split
  · rfl
  · obtain ⟨n, c⟩ := p
    cases c
    case tags => cases other
    case longitude =>
      simp only [Row.say]
      split <;> rfl
    case latitude =>
      simp only [Row.say]
      split <;> rfl
    all_goals rfl

theorem tagNames_foldl_of_not {columns : List Placed} (absent : ∀ p ∈ columns, p.isTags = false)
    (record : List String) (r : Row) :
    (columns.foldl (Row.sayCell record) r).tagNames = r.tagNames := by
  induction columns generalizing r with
  | nil => rfl
  | cons p rest ih =>
    rw [List.foldl_cons, ih (fun q hq => absent q (List.mem_cons_of_mem _ hq)),
      tagNames_sayCell_of_not (absent p List.mem_cons_self)]

/-- The names in a row are those in its cell of the tags. -/
theorem tagNames_readRow {columns : List Placed} (once : (columns.map Placed.column).Nodup)
    (record : List String) :
    (readRow columns record).tagNames = splitNames (trim (tagsCell columns record)) := by
  have untitled (r : Row) : r.requireTitle.tagNames = r.tagNames := by
    rw [Row.requireTitle]
    split <;> rfl
  rw [readRow, untitled, tagsCell]
  cases found : columns.find? Placed.isTags with
  | none =>
    have absent : ∀ p ∈ columns, p.isTags = false := by
      intro p hp
      simpa using List.find?_eq_none.1 found p hp
    rw [tagNames_foldl_of_not absent]
    exact splitNames_empty.symm
  | some p =>
    obtain ⟨here, front, back, rfl, before⟩ := List.find?_eq_some_iff_append.1 found
    have after : ∀ q ∈ back, q.isTags = false := by
      intro q hq
      rw [List.map_append, List.map_cons, List.nodup_middle] at once
      have other : q.column ≠ p.column := by
        intro same
        have := (List.nodup_cons.1 once).1
        exact this (List.mem_append_right _ (List.mem_map.2 ⟨q, hq, same⟩))
      have tags : p.column = .tags := by simpa [Placed.isTags] using here
      simpa [Placed.isTags, tags] using other
    have front_silent : (front.foldl (Row.sayCell record) .blank).tagNames = [] :=
      tagNames_foldl_of_not (by simpa using before) record .blank
    rw [List.foldl_append, List.foldl_cons, tagNames_foldl_of_not after, Row.sayCell]
    have tags : p.column = .tags := by simpa [Placed.isTags] using here
    simp only [tags, Option.bind_some]
    split
    · next blank =>
      rw [front_silent, String.isEmpty_iff.1 blank, splitNames_empty]
    · rw [Row.say]

/-- No column is read twice. -/
theorem placeColumns_nodup {labels : Labels} {cells : List String} {n : Nat} {seen : List Placed}
    (once : (seen.map Placed.column).Nodup) :
    ((placeColumns labels n seen cells).map Placed.column).Nodup := by
  induction cells generalizing n seen with
  | nil => exact once
  | cons cell rest ih =>
    rw [placeColumns]
    split
    · exact ih once
    · next c _ =>
      split
      · exact ih once
      · next new =>
        refine ih ?_
        rw [List.map_append, List.map_singleton, ← List.concat_eq_append, List.nodup_concat]
        refine ⟨?_, once⟩
        rintro old
        obtain ⟨p, hp, same⟩ := List.mem_map.1 old
        exact new (List.any_eq_true.2 ⟨p, hp, decide_eq_true same⟩)

theorem columnsOf_nodup {labels : Labels} {header : List String} {columns : List Placed}
    (titled : columnsOf labels header = .ok columns) : (columns.map Placed.column).Nodup := by
  rw [columnsOf] at titled
  split at titled
  · cases titled
    exact placeColumns_nodup List.nodup_nil
  · cases titled

/-! ## The tags of imported merchants -/

variable {i : Importer} {who : Principal} {geocoding : Bool} {columns : List Placed}
  {d d' : Directory}

/-- What a row leaves to the merchants that were there. -/
theorem importRow_relationsOf {r : Row} {o : Outcome} {id : Int}
    (known : id ≤ d.tables.merchants.last)
    (done : importRow i who geocoding r d = (.ok o, d')) :
    d'.tables.relationsOf [id] = d.tables.relationsOf [id] := by
  cases wrong : objections i r with
  | nil =>
    rw [importRow_of_clean wrong] at done
    cases done
    show (entering who r d).relationsOf [id] = d.tables.relationsOf [id]
    have foreign : ∀ l ∈ ((ownTags who r d.tables).filter (0 < ·)).map
        (fun tag => (⟨d.tables.merchants.next, tag, d.now⟩ : Relation)),
        ¬ [id].contains l.merchant = true := by
      intro l hl
      obtain ⟨tag, -, rfl⟩ := List.mem_map.1 hl
      have ahead : d.tables.merchants.next ≠ id := by
        rw [Table.next]
        omega
      simpa using ahead
    show (d.tables.relations ++ _).filter _ = d.tables.relations.filter _
    rw [List.filter_append, List.filter_eq_nil_iff.2 foreign, List.append_nil]
  | cons p ps =>
    rw [importRow_of_objections (by rw [wrong]; exact List.cons_ne_nil p ps)] at done
    cases done
    rfl

theorem importRows_relationsOf {records : List (List String)} {os : List Outcome} {id : Int}
    (known : id ≤ d.tables.merchants.last)
    (done : importRows i who geocoding columns records d = (.ok os, d')) :
    d'.tables.relationsOf [id] = d.tables.relationsOf [id] := by
  induction records generalizing d os with
  | nil =>
    cases done
    rfl
  | cons record rest ih =>
    obtain ⟨o, d₁, os', first, others, rfl⟩ := importRows_cons_cases done
    have later : id ≤ d₁.tables.merchants.last := by
      rw [(importRow_brings first).last]
      omega
    rw [ih later others, importRow_relationsOf known first]

/-- Relations with the new merchant are relations of a merchant whose id was given out. -/
theorem numbered_entering (numbered : d.tables.RelationsNumbered) (r : Row) :
    (entering who r d).RelationsNumbered := by
  intro l hl
  show l.merchant ≤ d.tables.merchants.last + 1
  rcases List.mem_append.1 hl with old | new
  · have := numbered l old
    omega
  · obtain ⟨tag, -, rfl⟩ := List.mem_map.1 new
    exact Int.le_refl _

/-- What became of a row: it is imported if nothing is wrong with it, and an imported merchant has
the tags in the end that were found by the names in the row. -/
structure Judged (i : Importer) (who : Principal) (columns : List Placed) (t t' : Tables)
    (record : List String) (o : Outcome) : Prop where
  admitted : objections i (readRow columns record) = [] → ∃ m, o = .imported m
  linked : ∀ m, o = .imported m → (t'.relationsOf [m.id]).map Relation.tag =
    (t.findTagsByNames who.id (readRow columns record).tagNames).map Tag.id

/-- Rows one after another: what a row leaves behind is what the rows after it find and keep. -/
theorem importRows_links {records : List (List String)} {os : List Outcome}
    (numbered : d.tables.RelationsNumbered) (positive : ∀ tag ∈ d.tables.tags.rows, 0 < tag.id)
    (done : importRows i who geocoding columns records d = (.ok os, d')) :
    List.Forall₂ (Judged i who columns d.tables d'.tables) records os := by
  induction records generalizing d os with
  | nil =>
    cases done
    exact .nil
  | cons record rest ih =>
    obtain ⟨o, d₁, os', first, others, rfl⟩ := importRows_cons_cases done
    have tags : d₁.tables.tags = d.tables.tags := (importRow_brings first).tags
    have found (names : List String) :
        d₁.tables.findTagsByNames who.id names = d.tables.findTagsByNames who.id names := by
      rw [Tables.findTagsByNames, tags, Tables.findTagsByNames]
    cases wrong : objections i (readRow columns record) with
    | nil =>
      have row : importRow i who geocoding (readRow columns record) d = _ :=
        importRow_of_clean wrong d
      rw [first] at row
      cases row
      refine .cons ⟨fun _ => ⟨_, rfl⟩, ?_⟩ ?_
      · rintro _ ⟨⟩
        have kept : d'.tables.relationsOf [d.tables.merchants.next] = _ :=
          importRows_relationsOf (Int.le_refl _) others
        show (d'.tables.relationsOf [d.tables.merchants.next]).map Relation.tag = _
        rw [kept]
        show ((entering who (readRow columns record) d).relationsOf _).map Relation.tag = _
        rw [relationsOf_entering numbered positive, List.map_map]
        rfl
      · have still :
            (adding who geocoding (readRow columns record) d).tables.RelationsNumbered :=
          numbered_entering numbered _
        refine (ih still positive others).imp fun record o h => ⟨h.admitted, ?_⟩
        intro m imported
        rw [h.linked m imported, found]
    | cons p ps =>
      have row : importRow i who geocoding (readRow columns record) d = _ :=
        importRow_of_objections (by rw [wrong]; exact List.cons_ne_nil p ps) d
      rw [first] at row
      cases row
      refine .cons ⟨?_, ?_⟩ (ih numbered positive others)
      · intro fine
        rw [wrong] at fine
        cases fine
      · intro m imported
        cases imported

/-! ## Tags and names -/

/-- What the tags of a row come to. A row with which nothing is wrong brings a merchant. If its cell
of the tags is the name of an own tag, without commas, the merchant carries the tag just when no
blanks stand around the name. And it carries own tags only that the cell names. -/
structure TagsLinked (i : Importer) (who : Principal) (columns : List Placed) (t t' : Tables)
    (record : List String) (o : Outcome) : Prop where
  own : objections i (readRow columns record) = [] → ∃ m, o = .imported m ∧
    ∀ tag ∈ t.tags.rows, tag.owner = who.id → ',' ∉ tag.name.toList → '，' ∉ tag.name.toList →
      tagsCell columns record = tag.name →
        (tag.id ∈ (t'.relationsOf [m.id]).map Relation.tag ↔ trim tag.name = tag.name)
  only : ∀ m, o = .imported m → ∀ l ∈ t'.relationsOf [m.id], ∃ tag ∈ t.tags.rows, tag.id = l.tag ∧
    tag.owner = who.id ∧ ∃ name ∈ splitNames (trim (tagsCell columns record)),
      lowercase (trim tag.name) = lowercase (trim name)

/-- A tag is found by the cell that holds its name if there are no blanks around the name. -/
theorem found_by_name_iff {t : Tables} {tag : Tag} (stored : tag ∈ t.tags.rows)
    (named : Text.isBlankText tag.name = false) (narrow : ',' ∉ tag.name.toList)
    (wide : '，' ∉ tag.name.toList) :
    tag ∈ t.findTagsByNames tag.owner (splitNames (trim tag.name)) ↔ trim tag.name = tag.name := by
  rw [Tables.mem_findTagsByNames_iff]
  constructor
  · rintro ⟨-, -, bare, -⟩
    exact bare
  · intro bare
    have shown : tag.name ≠ "" := by
      rintro empty
      rw [empty] at named
      cases named
    refine ⟨stored, rfl, bare, tag.name, ?_, rfl⟩
    rw [bare, splitNames_of_bare narrow wide bare shown]
    exact List.mem_singleton_self _

theorem Judged.tagsLinked {t t' : Tables} {record : List String} {o : Outcome}
    (h : Judged i who columns t t' record o) (valid : t.Valid)
    (once : (columns.map Placed.column).Nodup) :
    TagsLinked i who columns t t' record o where
  own fine := by
    obtain ⟨m, rfl⟩ := h.admitted fine
    refine ⟨m, rfl, ?_⟩
    intro tag stored own narrow wide cell
    have named : Text.isBlankText tag.name = false := (valid.tags tag stored).named
    rw [h.linked m rfl, tagNames_readRow once, cell, ← own,
      ← found_by_name_iff stored named narrow wide, List.mem_map]
    constructor
    · rintro ⟨other, found, same⟩
      -- an id stands for one tag
      have is_other := Table.get?_of_mem (Tables.mem_findTagsByNames_iff.1 found).1
      have is_tag := Table.get?_of_mem stored
      have keys : Keyed.key other = Keyed.key tag := same
      rw [keys, is_tag] at is_other
      exact Option.some.inj is_other ▸ found
    · exact fun found => ⟨tag, found, rfl⟩
  only m imported l hl := by
    have linked : l.tag ∈ (t'.relationsOf [m.id]).map Relation.tag := List.mem_map.2 ⟨l, hl, rfl⟩
    rw [h.linked m imported, tagNames_readRow once] at linked
    obtain ⟨tag, found, same⟩ := List.mem_map.1 linked
    obtain ⟨stored, owner, -, name, wanted, alike⟩ := Tables.mem_findTagsByNames_iff.1 found
    exact ⟨tag, stored, same, owner, name, wanted, alike⟩

/-- A file is imported into any directory that calls and jobs lead to. Of its merchants each carries
own tags that its row names, and those of them whose stored name has no blanks around it. -/
theorem own_tags_linked {d : Directory} (reached : Attainable d) {i : Importer} {bytes : List UInt8}
    {header : List String} {records : List (List String)} {columns : List Placed}
    (read : recordsOf bytes = .ok (header :: records)) (rows : records ≠ [])
    (titled : columnsOf i.labels header = .ok columns) (who : Principal) (auto : Bool)
    (moment : Timestamp) :
    ∃ os d', importBytes i who auto bytes { d with now := moment } =
        (.ok (.ofOutcomes who (auto && i.background) os), d') ∧
      List.Forall₂ (TagsLinked i who columns d.tables d'.tables) records os := by
  let ready : Directory := { d with now := moment }
  have numbered : ready.tables.RelationsNumbered := reached.relationsNumbered
  have positive : ∀ tag ∈ ready.tables.tags.rows, 0 < tag.id := reached.tagIds_pos
  obtain ⟨os, d', done⟩ := importRows_ok i who (auto && i.background) columns records ready
  refine ⟨os, d', ?_, ?_⟩
  · rw [importBytes_of_records read]
    exact importRecords_of_rows titled rows done
  · have judged := importRows_links numbered positive done
    exact judged.imp fun record o h => h.tagsLinked reached.valid (columnsOf_nodup titled)

/-- A tag without blanks around its name, in a file with one row. -/
theorem vip_linked :
    let ada : Principal := ⟨1, "ada"⟩
    let d := advance [.call ⟨ada, default, .tags (.create ⟨"VIP", "", "", "", ""⟩)⟩]
      (.empty .sqlite default)
    let file := encode "title,tags\nBakery,VIP\n"
    ∃ m d', importBytes ⟨.usual, false, fun _ => none⟩ ada false file d =
        (.ok (.ofOutcomes ada false [.imported m]), d') ∧
      1 ∈ (d'.tables.relationsOf [m.id]).map Relation.tag := by
  intro ada d file
  let i : Importer := ⟨.usual, false, fun _ => none⟩
  have reached : Attainable d := ⟨.sqlite, default, _, rfl⟩
  have read : recordsOf file = .ok [["title", "tags"], ["Bakery", "VIP"]] :=
    ok_of_toOption (by decide +kernel)
  have titled : columnsOf i.labels ["title", "tags"] = .ok [⟨0, .title⟩, ⟨1, .tags⟩] :=
    ok_of_toOption (by decide +kernel)
  obtain ⟨os, d', done, judged⟩ := own_tags_linked (i := i) reached read (by decide) titled ada
    false d.now
  obtain ⟨o, _, linked, last, rfl⟩ := List.forall₂_cons_left_iff.1 judged
  cases last
  have fine : objections i (readRow [⟨0, .title⟩, ⟨1, .tags⟩] ["Bakery", "VIP"]) = [] :=
    List.isEmpty_iff.1 (by decide +kernel)
  obtain ⟨m, rfl, own⟩ := linked.own fine
  have stored : ("VIP", (1 : Int), (1 : Int)) ∈
      d.tables.tags.rows.map fun tag => (tag.name, tag.id, tag.owner) := by
    decide +kernel
  obtain ⟨tag, here, said⟩ := List.mem_map.1 stored
  obtain ⟨name, id, owner⟩ : tag.name = "VIP" ∧ tag.id = 1 ∧ tag.owner = 1 := by
    simpa using said
  refine ⟨m, d', done, ?_⟩
  have found := own tag here owner (by rw [name]; decide) (by rw [name]; decide) name.symm
  rw [name, id] at found
  exact found.2 (by decide +kernel)

/-- A tag with blanks around its name is not found by the name. -/
theorem vip_missed :
    let ada : Principal := ⟨1, "ada"⟩
    let d := advance [.call ⟨ada, default, .tags (.create ⟨" VIP ", "", "", "", ""⟩)⟩]
      (.empty .memory default)
    let d' := (importBytes ⟨.usual, false, fun _ => none⟩ ada false
      (encode "title,tags\nBakery, VIP \n") d).2
    d.tables.tags.rows.map (fun tag => (tag.id, tag.owner, tag.name)) = [(1, 1, " VIP ")] ∧
      d'.tables.merchants.rows.map (fun m => (m.id, m.title)) = [(1, "Bakery")] ∧
      (d'.tables.relationsOf [1]).map Relation.tag = [] := by
  decide +kernel

end Import

end Gazetteer
