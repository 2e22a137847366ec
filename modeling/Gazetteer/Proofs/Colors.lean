import Gazetteer.Proofs.ReadBack
import Gazetteer.Proofs.TagPermissions

/-!
# Colours of tags

A colour is stored without blanks around it, without a number sign in front and with small letters.
One number sign is taken away, and blanks only before that, so a colour that has a second sign or a
blank behind the first one is not stored in the form that it would have if it were stored again.

* `CanonicalColor`: the form, by what it has to satisfy.
* `canonicalColor_eq_self_iff`: it is what storing leaves alone.
* `Layered`: the colours that are not stored in it.
* `canonicalColor_idem_iff`, `canonicalColor_settles`: storing once and again.
* `Tags.saveBack`: reading a tag and writing it back.
* `tag_saved_back`: what comes of that, once and again.
* `saving_back_changes_color`: a colour that changes when it is read and written back.
-/

set_option autoImplicit false

namespace Gazetteer

open Gazetteer.Text (trimChars isBlank foldAscii)

/-! ## Texts without blanks around them -/

/-- There are no blanks around the characters. -/
structure Trimmed (cs : List Char) : Prop where
  front : ∀ c, cs.head? = some c → isBlank c = false
  back : ∀ c, cs.getLast? = some c → isBlank c = false

theorem not_blank_of_head?_dropWhile {cs : List Char} {c : Char}
    (h : (cs.dropWhile isBlank).head? = some c) : isBlank c = false := by
  have first := List.head?_dropWhile_not isBlank cs
  rwa [h] at first

theorem trimmed_trimChars (cs : List Char) : Trimmed (trimChars cs) where
  front := by
    intro c h
    -- what is left after the second cut is the beginning of what is left after the first
    have kept : trimChars cs <+: cs.dropWhile isBlank := by
      have suffix := List.dropWhile_suffix isBlank (l := (cs.dropWhile isBlank).reverse)
      rw [← List.reverse_prefix, List.reverse_reverse] at suffix
      exact suffix
    obtain ⟨rest, joined⟩ := kept
    have first : (cs.dropWhile isBlank).head? = some c := by
      rw [← joined, List.head?_append, h]
      rfl
    exact not_blank_of_head?_dropWhile first
  back := by
    intro c h
    rw [trimChars, List.getLast?_reverse] at h
    exact not_blank_of_head?_dropWhile h

theorem dropWhile_of_head? {p : Char → Bool} {cs : List Char}
    (h : ∀ c, cs.head? = some c → p c = false) : cs.dropWhile p = cs := by
  cases cs with
  | nil => rfl
  | cons c rest => rw [List.dropWhile_cons_of_neg (by simp [h c rfl])]

theorem Trimmed.trimChars_eq {cs : List Char} (h : Trimmed cs) : trimChars cs = cs := by
  have back : ∀ c, cs.reverse.head? = some c → isBlank c = false := by
    intro c hc
    rw [List.head?_reverse] at hc
    exact h.back c hc
  rw [trimChars, dropWhile_of_head? h.front, dropWhile_of_head? back, List.reverse_reverse]

theorem trimChars_sublist (cs : List Char) : (trimChars cs).Sublist cs := by
  have back := (List.dropWhile_sublist isBlank (l := (cs.dropWhile isBlank).reverse)).reverse
  rw [List.reverse_reverse] at back
  exact back.trans (List.dropWhile_sublist isBlank)

/-! ## Small letters -/

/-- A letter from A to Z. -/
def IsCapital (c : Char) : Prop := 'A' ≤ c ∧ c ≤ 'Z'

instance (c : Char) : Decidable (IsCapital c) := inferInstanceAs (Decidable (_ ∧ _))

theorem foldAscii_of_not_capital {c : Char} (h : ¬IsCapital c) : foldAscii c = c := if_neg h

theorem toNat_foldAscii {c : Char} (h : IsCapital c) : (foldAscii c).toNat = c.toNat + 32 := by
  have range : 65 ≤ c.toNat ∧ c.toNat ≤ 90 := h
  have valid : (c.toNat + 32).isValidChar := .inl (by omega)
  have folded : foldAscii c = Char.ofNat (c.toNat + 32) := if_pos h
  rw [folded, Char.toNat_ofNat, if_pos valid]

theorem not_capital_foldAscii (c : Char) : ¬IsCapital (foldAscii c) := by
  by_cases h : IsCapital c
  · have range : 65 ≤ c.toNat ∧ c.toNat ≤ 90 := h
    rintro ⟨_, high⟩
    have high : (foldAscii c).toNat ≤ 90 := high
    rw [toNat_foldAscii h] at high
    omega
  · rw [foldAscii_of_not_capital h]
    exact h

/-- A letter becomes a letter, so what is a blank or a number sign was one before. -/
theorem foldAscii_alike (c : Char) :
    isBlank (foldAscii c) = isBlank c ∧ (foldAscii c = '#' ↔ c = '#') := by
  by_cases h : IsCapital c
  · have range : 65 ≤ c.toNat ∧ c.toNat ≤ 90 := h
    have folded := toNat_foldAscii h
    have blank : ∀ x : Char, 65 ≤ x.toNat → x.toNat ≤ 122 → isBlank x = false := by
      intro x low high
      simp only [isBlank, Bool.or_eq_false_iff, Bool.and_eq_false_iff, decide_eq_false_iff_not,
        beq_eq_false_iff_ne]
      omega
    have sign : ∀ x : Char, 65 ≤ x.toNat → x ≠ '#' := by
      rintro x low rfl
      revert low
      decide
    refine ⟨?_, ?_⟩
    · rw [blank _ (by omega) (by omega), blank c range.1 (by omega)]
    · exact iff_of_false (sign _ (by omega)) (sign c range.1)
  · rw [foldAscii_of_not_capital h]
    exact ⟨rfl, .rfl⟩

/-! ## The form of a colour -/

/-- No blanks around the colour, no number sign in front, and no letter from A to Z. -/
structure CanonicalColor (s : String) : Prop where
  trimmed : Trimmed s.toList
  bare : s.toList.head? ≠ some '#'
  small : ∀ c ∈ s.toList, ¬IsCapital c

/-- The characters without one number sign in front. -/
def withoutSign : List Char → List Char
  | '#' :: rest => rest
  | cs => cs

theorem withoutSign_of_bare {cs : List Char} (h : cs.head? ≠ some '#') : withoutSign cs = cs := by
  rw [withoutSign.eq_2]
  rintro rest rfl
  exact h rfl

theorem withoutSign_suffix (cs : List Char) : withoutSign cs <:+ cs := by
  by_cases sign : cs.head? = some '#'
  · obtain ⟨rest, rfl⟩ := List.head?_eq_some_iff.1 sign
    exact List.suffix_cons '#' rest
  · rw [withoutSign_of_bare sign]

theorem toList_canonicalColor (s : String) :
    (canonicalColor s).toList = (withoutSign (trimChars s.toList)).map foldAscii := by
  rw [canonicalColor, String.toList_ofList]
  rfl

theorem canonicalColor_of_canonical {s : String} (h : CanonicalColor s) : canonicalColor s = s := by
  apply String.toList_injective
  rw [toList_canonicalColor, h.trimmed.trimChars_eq, withoutSign_of_bare h.bare]
  exact (List.map_congr_left fun c hc => foldAscii_of_not_capital (h.small c hc)).trans
    (List.map_id _)

/-- The letters of a stored colour are small. -/
theorem canonicalColor_small (s : String) : ∀ c ∈ (canonicalColor s).toList, ¬IsCapital c := by
  intro c hc
  rw [toList_canonicalColor] at hc
  obtain ⟨x, _, rfl⟩ := List.mem_map.1 hc
  exact not_capital_foldAscii x

/-- What storing leaves alone has the form, since nothing can have been taken away from it. -/
theorem canonicalColor_eq_self_iff (s : String) : canonicalColor s = s ↔ CanonicalColor s := by
  refine ⟨?_, canonicalColor_of_canonical⟩
  intro same
  have sizes : (withoutSign (trimChars s.toList)).length = s.toList.length := by
    rw [← List.length_map (f := foldAscii), ← toList_canonicalColor, same]
  have taken := (withoutSign_suffix (trimChars s.toList)).length_le
  have cut := (trimChars_sublist s.toList).length_le
  have whole : trimChars s.toList = s.toList :=
    (trimChars_sublist s.toList).eq_of_length (by omega)
  refine ⟨whole ▸ trimmed_trimChars s.toList, ?_, ?_⟩
  · intro sign
    obtain ⟨rest, split⟩ := List.head?_eq_some_iff.1 sign
    rw [whole, split, withoutSign, List.length_cons] at sizes
    omega
  · intro c hc
    rw [← same] at hc
    exact canonicalColor_small s c hc

theorem canonicalColor_back (s : String) :
    ∀ c, (canonicalColor s).toList.getLast? = some c → isBlank c = false := by
  intro c hc
  rw [toList_canonicalColor, List.getLast?_map] at hc
  obtain ⟨x, last, rfl⟩ := Option.map_eq_some_iff.1 hc
  obtain ⟨taken, split⟩ := withoutSign_suffix (trimChars s.toList)
  rw [(foldAscii_alike x).1]
  refine (trimmed_trimChars s.toList).back x ?_
  rw [← split, List.getLast?_append, last]
  rfl

/-! ## Colours that are not stored in the form -/

/-- Without the blanks around it, the colour has a number sign in front, and behind that another one
or a blank. -/
def Layered (s : String) : Prop :=
  ∃ c rest, trimChars s.toList = '#' :: c :: rest ∧ (c = '#' ∨ isBlank c = true)

theorem head_of_not_layered {s : String} (h : ¬Layered s) {c : Char}
    (first : (withoutSign (trimChars s.toList)).head? = some c) : isBlank c = false ∧ c ≠ '#' := by
  by_cases sign : (trimChars s.toList).head? = some '#'
  · obtain ⟨rest, split⟩ := List.head?_eq_some_iff.1 sign
    rw [split] at first
    obtain ⟨more, rfl⟩ := List.head?_eq_some_iff.1 first
    refine ⟨Bool.eq_false_iff.2 fun blank => h ⟨c, more, split, .inr blank⟩, ?_⟩
    exact fun again => h ⟨c, more, split, .inl again⟩
  · rw [withoutSign_of_bare sign] at first
    refine ⟨(trimmed_trimChars s.toList).front c first, ?_⟩
    rintro rfl
    exact sign first

/-- A layered colour is the only one that is not stored in the form. -/
theorem canonical_canonicalColor_iff (s : String) :
    CanonicalColor (canonicalColor s) ↔ ¬Layered s := by
  refine ⟨?_, ?_⟩
  · rintro form ⟨c, rest, split, under⟩
    have first : (canonicalColor s).toList.head? = some (foldAscii c) := by
      rw [toList_canonicalColor, split]
      rfl
    obtain sign | blank := under
    · exact form.bare (first.trans (congrArg some ((foldAscii_alike c).2.2 sign)))
    · have clear := form.trimmed.front _ first
      rw [(foldAscii_alike c).1, blank] at clear
      cases clear
  · intro plain
    have front : ∀ c, (canonicalColor s).toList.head? = some c → isBlank c = false ∧ c ≠ '#' := by
      intro c hc
      rw [toList_canonicalColor, List.head?_map] at hc
      obtain ⟨x, first, rfl⟩ := Option.map_eq_some_iff.1 hc
      obtain ⟨blank, sign⟩ := foldAscii_alike x
      rw [blank, Ne, sign]
      exact head_of_not_layered plain first
    exact ⟨⟨fun c hc => (front c hc).1, canonicalColor_back s⟩, fun hc => (front '#' hc).2 rfl,
      canonicalColor_small s⟩

theorem canonicalColor_idem_iff (s : String) :
    canonicalColor (canonicalColor s) = canonicalColor s ↔ ¬Layered s :=
  (canonicalColor_eq_self_iff _).trans (canonical_canonicalColor_iff s)

theorem canonicalColor_shorter {s : String} (h : Layered s) :
    (canonicalColor s).length < s.length := by
  obtain ⟨c, rest, split, _⟩ := h
  have cut := (trimChars_sublist s.toList).length_le
  rw [split] at cut
  rw [← String.length_toList, ← String.length_toList, toList_canonicalColor, split,
    List.length_map]
  exact Nat.lt_of_lt_of_le (Nat.lt_succ_self _) cut

/-- Each time that a colour is stored again it loses a layer, so it has the form at last. -/
theorem canonicalColor_settles {n : Nat} {s : String} (short : s.length ≤ n) :
    CanonicalColor (canonicalColor^[n] s) := by
  induction n generalizing s with
  | zero =>
    obtain rfl := String.length_eq_zero_iff.1 (Nat.le_zero.1 short)
    exact ⟨⟨(fun _ h => nomatch h), (fun _ h => nomatch h)⟩, (fun h => nomatch h),
      (fun _ h => nomatch h)⟩
  | succ n ih =>
    rw [Function.iterate_succ_apply]
    by_cases layered : Layered s
    · have shorter := canonicalColor_shorter layered
      exact ih (by omega)
    · have form := (canonical_canonicalColor_iff s).2 layered
      rw [Function.iterate_fixed (canonicalColor_of_canonical form)]
      exact form

/-! ## Tags that are read and written back -/

namespace Tags

/-- Reads a tag and writes back what was read. -/
def saveBack (who : Principal) (id : Int) : Action Tag := do
  let tag ← find who id
  update who id tag.draft

/-- The directory after a tag was saved back at some moments. -/
def savedBacks (who : Principal) (id : Int) (moments : List Timestamp) (d : Directory) :
    Directory :=
  moments.foldl (fun d moment => (saveBack who id { d with now := moment }).2) d

variable {who : Principal} {id : Int} {d : Directory}

theorem find_eq_ok {d' : Directory} {tag : Tag} (h : find who id d = (.ok tag, d')) :
    ∃ row, d.tables.tags.get? id = some row ∧ row.owner = who.id ∧ tag = row.asSeenBy who :=
  ownedIn_eq_ok (Prod.mk.inj h).1

theorem find_of_get? {row : Tag} (stored : d.tables.tags.get? id = some row)
    (own : row.owner = who.id) : find who id d = (.ok (row.asSeenBy who), d) := by
  have owned : row.isOwnedBy who = true := decide_eq_true own
  rw [find, Tags.owned, Action.check_apply, ownedIn, stored]
  simp only [owned, if_true]

/-- What is stored passes its check again, so what was read is written back. -/
theorem saveBack_eq (valid : d.tables.Valid) {row : Tag}
    (stored : d.tables.tags.get? id = some row) (own : row.owner = who.id) :
    saveBack who id d =
      let new := (row.asSeenBy who).revise d.now (row.asSeenBy who).draft
      (.ok new, d.after (d.tables.updateTag d.engine new) .tagUpdated (.tag new) who) := by
  have checked : (row.asSeenBy who).draft.check = .ok () :=
    (TagDraft.check_eq_ok_iff _).2 (valid.tags row (Table.mem_of_get? stored))
  have found := find_of_get? stored own
  have owned : ownedIn who id d.tables = .ok (row.asSeenBy who) := (Prod.mk.inj found).1
  have admitted :
      admitUpdate who id (row.asSeenBy who).draft d.tables = .ok (row.asSeenBy who) :=
    admitUpdate_eq_ok.2 ⟨checked, owned⟩
  rw [saveBack, Action.bind_of_ok found, update_eq, Action.guarded_of_ok admitted]

end Tags

/-- The stored tag after its owner read it and wrote it back. -/
def Tag.savedBack (e : Engine) (moment : Timestamp) (tag : Tag) : Tag :=
  { tag with
    color := canonicalColor tag.color
    permission := if e = .memory then .admin else tag.permission
    updated := moment }

namespace Attainable

variable {d : Directory} {who : Principal} {id : Int} {row : Tag}

/-- Nothing but the row of the tag is different, and of the row the colour, the date, and in memory
the permission. -/
theorem saveBack_tables (reached : Attainable d) (stored : d.tables.tags.get? id = some row)
    (own : row.owner = who.id) (moment : Timestamp) :
    ∃ new d', Tags.saveBack who id { d with now := moment } = (.ok new, d') ∧
      d'.tables =
        { d.tables with tags := d.tables.tags.modify id (Tag.savedBack d.engine moment) } := by
  have valid : ({ d with now := moment } : Directory).tables.Valid := reached.valid
  refine ⟨_, _, Tags.saveBack_eq valid stored own, ?_⟩
  obtain rfl := Table.key_of_get? stored
  let new := (row.asSeenBy who).revise moment (row.asSeenBy who).draft
  have mark := reached.tagsMarked.marks row (Table.mem_of_get? stored)
  have held : new.permission = .admin := Tag.permission_asSeenBy own
  have same : d.tables.tags.modify row.id (d.engine.revisedTag new) =
      d.tables.tags.modify row.id (Tag.savedBack d.engine moment) := by
    refine Table.modify_congr ?_
    intro r found
    cases stored.symm.trans found
    let granted (p : Permission) : Tag := { new with permission := p }
    cases engine : d.engine with
    | memory => exact congrArg granted held
    | sqlite =>
      have unmarked : d.markOf row.id = .read := by
        rw [Directory.markOf, engine, if_neg]
        rintro ⟨⟨⟩, _⟩
      exact congrArg granted (mark.trans unmarked).symm
  exact congrArg (fun tags => { d.tables with tags := tags }) same

theorem saveBack_row (reached : Attainable d) (stored : d.tables.tags.get? id = some row)
    (own : row.owner = who.id) (moment : Timestamp) :
    (Tags.saveBack who id { d with now := moment }).2.tables.tags.get? id =
      some (row.savedBack d.engine moment) := by
  obtain ⟨new, d', saved, tables⟩ := reached.saveBack_tables stored own moment
  obtain rfl := Table.key_of_get? stored
  rw [saved, tables]
  exact Table.get?_modify_self stored (Tag.savedBack d.engine moment)

/-- Reading and writing back are two calls that anybody can make. -/
theorem saveBack (reached : Attainable d) (stored : d.tables.tags.get? id = some row)
    (own : row.owner = who.id) (moment : Timestamp) :
    Attainable (Tags.saveBack who id { d with now := moment }).2 := by
  have found := Tags.find_of_get? (d := { d with now := moment }) stored own
  let again : Turn := ⟨who, moment, .tags (.update id (row.asSeenBy who).draft)⟩
  have step : (again.issue d).2 = (Tags.saveBack who id { d with now := moment }).2 := by
    rw [Tags.saveBack, Action.bind_of_ok found]
    exact map_snd Reply.tag _ _
  rw [← step]
  exact reached.step (.call again)

/-- Each time that the tag is saved back its colour is stored again. -/
theorem savedBacks_row (reached : Attainable d) (stored : d.tables.tags.get? id = some row)
    (own : row.owner = who.id) (moments : List Timestamp) :
    ∃ row', (Tags.savedBacks who id moments d).tables.tags.get? id = some row' ∧
      row'.color = canonicalColor^[moments.length] row.color := by
  induction moments generalizing d row with
  | nil => exact ⟨row, stored, rfl⟩
  | cons moment rest ih =>
    exact ih (reached.saveBack stored own moment) (reached.saveBack_row stored own moment) own

end Attainable

/-- A colour is stored with small letters and without a blank behind it. It is stored in the form
unless it is layered, and those are the colours that are different when they are stored again. Who
reads a tag and writes it back changes nothing but the date of the row, its colour if that is not in
the form, and in memory the permission; and who does so seven times leaves a colour in the form. -/
theorem tag_saved_back (s : String) (d : Directory) (who : Principal) (id : Int) (tag : Tag) :
    ((∀ c ∈ (canonicalColor s).toList, ¬IsCapital c) ∧
      (∀ c, (canonicalColor s).toList.getLast? = some c → isBlank c = false) ∧
      (CanonicalColor (canonicalColor s) ↔ ¬Layered s) ∧
      (canonicalColor (canonicalColor s) = canonicalColor s ↔ ¬Layered s)) ∧
    (Attainable d → Tags.find who id d = (.ok tag, d) →
      (canonicalColor tag.color = tag.color ↔ CanonicalColor tag.color) ∧
      (∀ moment, ∃ new d', Tags.saveBack who id { d with now := moment } = (.ok new, d') ∧
        d'.tables =
          { d.tables with tags := d.tables.tags.modify id (Tag.savedBack d.engine moment) }) ∧
      ∀ moments, ∃ row,
        (Tags.savedBacks who id moments d).tables.tags.get? id = some row ∧
        row.color = canonicalColor^[moments.length] tag.color ∧
        (7 ≤ moments.length → CanonicalColor row.color)) := by
  refine ⟨⟨canonicalColor_small s, canonicalColor_back s, canonical_canonicalColor_iff s,
    canonicalColor_idem_iff s⟩, ?_⟩
  intro reached read
  obtain ⟨row, stored, own, rfl⟩ := Tags.find_eq_ok read
  refine ⟨canonicalColor_eq_self_iff _, reached.saveBack_tables stored own, ?_⟩
  intro moments
  obtain ⟨row', stored', color⟩ := reached.savedBacks_row stored own moments
  refine ⟨row', stored', color, ?_⟩
  intro often
  have short := (reached.valid.tags row (Table.mem_of_get? stored)).color
  rw [color]
  exact canonicalColor_settles (short.trans often)

/-- A colour with two number signs is stored with one and stored again without any. -/
theorem tag_saved_back_twice :
    let ada : Principal := ⟨1, "ada"⟩
    let vip : TagDraft := ⟨"vip", "", "", "", "##AbC"⟩
    let d := advance [.call ⟨ada, default, .tags (.create vip)⟩] (.empty .sqlite default)
    Attainable d ∧ ∃ tag, Tags.find ada 1 d = (.ok tag, d) ∧
      (∃ row, (Tags.savedBacks ada 1 [default, default] d).tables.tags.get? 1 = some row ∧
        row.color = canonicalColor^[2] tag.color) ∧
      tag.color = "#abc" ∧ canonicalColor^[2] tag.color = "abc" := by
  intro ada vip d
  have reached : Attainable d := ⟨.sqlite, default, _, rfl⟩
  have found : (Tags.find ada 1 d).1.isOk = true := by decide +kernel
  have color : (Tags.find ada 1 d).1.toOption.map Tag.color = some "#abc" := by decide +kernel
  obtain ⟨tag, answered⟩ := ok_of_isOk found
  rw [answered] at color
  have stored : tag.color = "#abc" := Option.some.inj color
  have read : Tags.find ada 1 d = (.ok tag, d) := Prod.ext answered rfl
  obtain ⟨_, _, again⟩ := (tag_saved_back vip.color d ada 1 tag).2 reached read
  obtain ⟨row, kept, iterated, _⟩ := again [default, default]
  refine ⟨reached, tag, read, ⟨row, kept, iterated⟩, stored, ?_⟩
  rw [stored]
  decide +kernel

/-- A colour that changes when its tag is read and written back, in either engine, and another one
that keeps a blank in front. -/
theorem saving_back_changes_color :
    let ada : Principal := ⟨1, "ada"⟩
    let vip : TagDraft := ⟨"vip", "", "", "", "##AbC"⟩
    let d (e : Engine) := run [⟨ada, default, .tags (.create vip)⟩] (.empty e default)
    let colors (d : Directory) := d.tables.tags.rows.map Tag.color
    (∀ e ∈ [Engine.memory, .sqlite], colors (d e) = ["#abc"] ∧
      colors (Tags.saveBack ada 1 (d e)).2 = ["abc"]) ∧
    canonicalColor (canonicalColor "##AbC") ≠ canonicalColor "##AbC" ∧
    canonicalColor "# AbC" = " abc" := by
  decide +kernel

end Gazetteer
