import Gazetteer.Proofs.LikePatterns
import Gazetteer.Proofs.Pages

/-!
# Text that is there is found

A search compares texts in a folded form, so it is not plain that it finds a text that stands in
another one as it is. In memory the form of a capital sigma depends on what stands around it; in the
database a text ends at its first NUL, and long patterns are not tried. But for that, whatever
contains the search text is found.

* `SigmasStay`: a part of a text whose sigmas are folded as they are by themselves.
* `lowerAfter_infix`: its lowercase form is then a part of the lowercase form of the text.
* `visible_pattern_covers`: a pattern covers a text in which no NUL stands in front of its search
  text.
* `Engine.Shows`, `Engine.Finds`: what an engine sees of a text, and what it finds.
* `literal_found`: all lists find what is shown.
-/

set_option autoImplicit false

namespace Gazetteer

open Gazetteer.Text (leadsToCased lowerAfter lowercase trim trimChars)

/-! ## In memory -/

namespace Text

/-- A capital sigma between these characters ends a word; those in front of it come nearest
first. -/
def endsWord (before rest : List Char) : Bool := leadsToCased before && !leadsToCased rest

/-- Every capital sigma of a part of a text ends a word just when it does so in the part alone. -/
def SigmasStay (before part after : List Char) : Prop :=
  ∀ u v, part = u ++ 'Σ' :: v →
    endsWord (u.reverse ++ before.reverse) (v ++ after) = endsWord u.reverse v

theorem sigmasStay_of_not_mem {before part after : List Char} (h : 'Σ' ∉ part) :
    SigmasStay before part after := by
  rintro u v rfl
  simp at h

/-- A part is folded by itself when its sigmas do not see what stands around it. -/
theorem lowerAfter_append {part after : List Char} {before before' : List Char}
    (stay : ∀ u v, part = u ++ 'Σ' :: v →
      endsWord (u.reverse ++ before) (v ++ after) = endsWord (u.reverse ++ before') v) :
    lowerAfter before (part ++ after) =
      lowerAfter before' part ++ lowerAfter (part.reverse ++ before) after := by
  induction part generalizing before before' with
  | nil => rfl
  | cons c rest ih =>
    -- What is passed stands in front of the next characters on both sides.
    have stay_tail : ∀ u v, rest = u ++ 'Σ' :: v →
        endsWord (u.reverse ++ c :: before) (v ++ after) =
          endsWord (u.reverse ++ c :: before') v := by
      intro u v split
      have inner := stay (c :: u) v (congrArg (c :: ·) split)
      simpa using inner
    have here : c = 'Σ' → endsWord before (rest ++ after) = endsWord before' rest :=
      fun sigma => stay [] rest (by rw [sigma]; rfl)
    have reversed : (c :: rest).reverse ++ before = rest.reverse ++ c :: before := by simp
    rw [List.cons_append, lowerAfter, lowerAfter, ih stay_tail, List.append_assoc, reversed]
    by_cases sigma : c = 'Σ'
    · have same := here sigma
      rw [endsWord, endsWord] at same
      rw [if_pos sigma, if_pos sigma, same]
    · rw [if_neg sigma, if_neg sigma]

/-- The end of a text is folded after what stands in front of it. -/
theorem lowerAfter_suffix (before cs rest : List Char) :
    lowerAfter (cs.reverse ++ before) rest <:+ lowerAfter before (cs ++ rest) := by
  induction cs generalizing before with
  | nil => exact List.suffix_refl _
  | cons c cs ih =>
    have reversed : (c :: cs).reverse ++ before = cs.reverse ++ c :: before := by simp
    rw [reversed, List.cons_append, lowerAfter]
    exact (ih (c :: before)).trans (List.suffix_append _ _)

theorem lowerAfter_infix {before part after : List Char} (stay : SigmasStay before part after) :
    lowerAfter [] part <:+: lowerAfter [] (before ++ part ++ after) := by
  have folded : lowerAfter before.reverse (part ++ after) =
      lowerAfter [] part ++ lowerAfter (part.reverse ++ before.reverse) after := by
    refine lowerAfter_append fun u v split => ?_
    rw [List.append_nil]
    exact stay u v split
  have inside := lowerAfter_suffix [] before (part ++ after)
  rw [List.append_nil, folded] at inside
  rw [List.append_assoc]
  exact (List.prefix_append _ _).isInfix.trans inside.isInfix

end Text

/-! ## In the database -/

namespace Like

theorem visible_append (cs rest : List Char) :
    visible (cs ++ rest) = visible cs ++ if '\x00' ∈ cs then [] else visible rest := by
  induction cs with
  | nil => simp [visible]
  | cons c cs ih =>
    by_cases nul : c = '\x00'
    · simp [visible, nul]
    · have ne : '\x00' ≠ c := Ne.symm nul
      rw [visible, visible] at ih
      simp [visible, nul, ne, ih]

theorem nul_mem_escape {cs : List Char} : '\x00' ∈ escape cs ↔ '\x00' ∈ cs := by
  constructor
  · intro h
    exact (mem_escape h).resolve_left (by decide)
  · intro h
    exact List.mem_flatMap.2 ⟨'\x00', h, by decide⟩

theorem visible_escape_singleton (c : Char) : visible (escape [c]) = escape (visible [c]) := by
  by_cases special : c = '\\' ∨ c = '%' ∨ c = '_'
  · obtain rfl | rfl | rfl := special <;> decide
  · rw [escape_plain special]
    by_cases nul : c = '\x00'
    · subst nul
      decide
    · by_cases other : c = '\uFFFE' ∨ c = '\uFFFF'
      · obtain rfl | rfl := other <;> decide
      · have shown : visible [c] = [c] := by simp [visible, nul, other]
        rw [shown, escape_plain special]

/-- What the database sees of an escaped text is escaped. -/
theorem visible_escape (cs : List Char) : visible (escape cs) = escape (visible cs) := by
  induction cs with
  | nil => rfl
  | cons c rest ih =>
    have first : visible (c :: rest) = visible [c] ++ if '\x00' ∈ [c] then [] else visible rest :=
      visible_append [c] rest
    rw [escape_cons, visible_append, visible_escape_singleton, ih, first]
    simp only [nul_mem_escape]
    split <;> simp [escape]

theorem matches_literals {cs text : List Char} {ps : List Piece} (h : Matches ps text) :
    Matches (cs.map .literal ++ ps) (cs ++ text) := by
  induction cs with
  | nil => exact h
  | cons c rest ih => exact .literal rfl ih

/-- A pattern covers what contains its search text, unless a NUL is in front of it. Behind a NUL
within the search text neither the rest of it nor the rest of the text is seen. -/
theorem visible_pattern_covers {search before after : List Char} (h : '\x00' ∉ before) :
    covers (visible (pattern search)) (visible (before ++ trimChars search ++ after)) = true := by
  have begins (cs : List Char) : Begins .run ('%' :: cs) cs := begins_plain (by decide) cs
  have shown : visible (pattern search) =
      '%' :: (escape (visible (trimChars search)) ++
        if '\x00' ∈ trimChars search then [] else ['%']) := by
    have whole : pattern search = ['%'] ++ (escape (trimChars search) ++ ['%']) := rfl
    rw [whole, visible_append, if_neg (by decide), visible_append, visible_escape]
    simp only [nul_mem_escape]
    rfl
  have text : visible (before ++ trimChars search ++ after) =
      visible before ++ (visible (trimChars search) ++
        if '\x00' ∈ trimChars search then [] else visible after) := by
    rw [List.append_assoc, visible_append, if_neg h, visible_append]
  rw [covers_iff, shown, text]
  rw [(begins _).accepts_run]
  refine ⟨_, List.suffix_append _ _, ?_⟩
  by_cases nul : '\x00' ∈ trimChars search
  · -- The pattern has lost its last run, but the text ends there as well.
    rw [if_pos nul, if_pos nul]
    exact ⟨_, by rw [pieces_escape]; rfl, matches_literals .nil⟩
  · rw [if_neg nul, if_neg nul]
    have rest : Matches [.run] (visible after) := by
      have whole := Matches.run (visible after) .nil
      rwa [List.append_nil] at whole
    exact ⟨_, by rw [pieces_escape]; rfl, matches_literals rest⟩

end Like

/-! ## What is shown is found -/

namespace Engine

variable {α β : Type} {e : Engine} {search : String}

/-- The engine sees the search text in a place of the text: its sigmas stay as they are, or no NUL
is in front of it. -/
def Shows (e : Engine) (search text : String) : Prop :=
  ∃ before after, text.toList = before ++ (trim search).toList ++ after ∧
    match e with
    | .memory => Text.SigmasStay before (trim search).toList after
    | .sqlite => '\x00' ∉ before

/-- Without sigmas and NULs any place will do. -/
theorem shows_of_infix {text : String} (sigma : 'Σ' ∉ (trim search).toList)
    (nul : '\x00' ∉ text.toList) (h : (trim search).toList <:+: text.toList) :
    e.Shows search text := by
  obtain ⟨before, after, split⟩ := h
  refine ⟨before, after, split.symm, ?_⟩
  cases e with
  | memory => exact Text.sigmasStay_of_not_mem sigma
  | sqlite =>
    intro h
    rw [← split] at nul
    simp [h] at nul

theorem hits_of_shows {texts : List String} (h : ∃ text ∈ texts, e.Shows search text) :
    e.hits search texts = true := by
  obtain ⟨text, among, before, after, split, seen⟩ := h
  cases e with
  | memory =>
    have folded : (lowercase (trim search)).toList <:+: (lowercase text).toList := by
      rw [lowercase, lowercase, String.toList_ofList, String.toList_ofList, split]
      exact Text.lowerAfter_infix seen
    have occurs := (Text.occursIn_iff _ _).2 folded
    rw [hits, containsFolded, Bool.or_eq_true]
    exact .inr (List.any_eq_true.2 ⟨text, among, occurs⟩)
  | sqlite =>
    have trimmed : (trim search).toList = trimChars search.toList := String.toList_ofList
    have covered : Like.covers (Like.visible (Like.pattern search.toList))
        (Like.visible text.toList) = true := by
      rw [split, trimmed]
      exact Like.visible_pattern_covers seen
    exact List.any_eq_true.2 ⟨text, among, covered⟩

/-- A search without paging either is not tried on the rows, or finds each row that shows its text
somewhere. -/
structure Finds (e : Engine) (search : String) (texts : α → List String) (scope : List α)
    (item : α → β) (answer : Except Failure (Page β)) : Prop where
  refused : e.Refuses search → scope ≠ [] → answer = .error tooComplex
  found : (e.Refuses search → scope = []) → ∃ page, answer = .ok page ∧
    ∀ r ∈ scope, (∃ text ∈ texts r, e.Shows search text) → item r ∈ page.items

theorem seek_finds {p : Paging} (whole : p.window = none) (texts : α → List String)
    (scope : List α) (item : α → β) :
    e.Finds search texts scope item
      (((e.seek search texts p scope).map Page.found).map (Page.map item)) where
  refused long some := by
    rw [seek_refused long some]
    rfl
  found tried := by
    rw [seek_tried tried, e.page_whole whole]
    refine ⟨_, rfl, fun r among shown => ?_⟩
    exact List.mem_map_of_mem (List.mem_filter.2 ⟨among, hits_of_shows shown⟩)

end Engine

/-- Whatever a list is asked for without paging, it holds each row in question that shows the search
text, blanks around it left out, unless the database does not try the pattern. -/
theorem literal_found (d : Directory) (who : Principal) (search : String) {p : Paging}
    (whole : p.page = 0 ∨ p.perPage = 0) :
    d.engine.Finds search Tables.merchantTexts (d.tables.merchantsOf who.id)
      (d.tables.detailed who) (Merchants.list who search p d).1 ∧
    d.engine.Finds search Tables.tagTexts (d.tables.tagsOf who.id none) (·.asSeenBy who)
      (Tags.list who search none p d).1 ∧
    (∀ merchant, d.tables.Owns who merchant →
      d.engine.Finds search Tables.pointTexts (d.tables.pointsOf merchant) id
        (Points.list who merchant search p d).1) ∧
    ∀ text : String, 'Σ' ∉ (trim search).toList → '\x00' ∉ text.toList →
      (trim search).toList <:+: text.toList → d.engine.Shows search text := by
  have all := Paging.window_none whole
  refine ⟨?merchants, ?tags, ?points, fun text => Engine.shows_of_infix⟩
  case merchants =>
    rw [Merchants.list_eq]
    exact Engine.seek_finds all _ _ _
  case tags =>
    rw [Tags.list_eq]
    exact Engine.seek_finds all _ _ _
  case points =>
    intro merchant own
    have found : d.engine.Finds search _ _ id _ :=
      Engine.seek_finds all Tables.pointTexts (d.tables.pointsOf merchant) id
    rw [Page.map_id] at found
    rw [Points.list_eq (Points.requireMerchant_of_owns own)]
    exact found

/-- A title with wildcards is found by them. -/
theorem discount_found :
    let ada : Principal := ⟨1, "ada"⟩
    let discount : MerchantFields := { MerchantFields.blank with title := "50%_off" }
    let d := run [⟨ada, default, .merchants (.create ⟨discount, [], [], false⟩)⟩]
      (.empty .sqlite default)
    (Paging.all.page = 0 ∨ Paging.all.perPage = 0) ∧
      ∃ m ∈ d.tables.merchantsOf 1, m.title = "50%_off" ∧
        ∃ page, (Merchants.list ada " %_off " .all d).1 = .ok page ∧
          d.tables.detailed ada m ∈ page.items := by
  intro ada discount d
  have stored : (d.tables.merchantsOf 1).map Merchant.title = ["50%_off"] := by decide +kernel
  have engine : d.engine = .sqlite := by decide +kernel
  have short : ¬Like.maxBytes < Like.byteSize (Like.pattern " %_off ".toList) := by decide
  clear_value d
  have whole : Paging.all.page = 0 ∨ Paging.all.perPage = 0 := .inl rfl
  have found := literal_found d ada " %_off " whole
  obtain ⟨page, answer, complete⟩ := found.1.found fun refused => absurd refused.2 short
  have titled : "50%_off" ∈ (d.tables.merchantsOf 1).map Merchant.title := by simp [stored]
  obtain ⟨m, among, title⟩ := List.mem_map.1 titled
  have literal : (trim " %_off ").toList <:+: "50%_off".toList := by decide
  have shown : d.engine.Shows " %_off " m.title := by
    rw [title]
    exact found.2.2.2 "50%_off" (by decide) (by decide) literal
  exact ⟨whole, m, among, title, page, answer, complete m among ⟨_, List.mem_cons_self, shown⟩⟩

/-- In memory the sigma that ends the search text is folded in another way than the one inside the
title; in the database nothing behind a NUL is seen. -/
theorem literal_missed :
    let ada : Principal := ⟨1, "ada"⟩
    let draft (title : String) : MerchantDraft :=
      ⟨{ MerchantFields.blank with title := title }, [], [], false⟩
    let d (e : Engine) (title : String) :=
      run [⟨ada, default, .merchants (.create (draft title))⟩] (.empty e default)
    let found (e : Engine) (search title : String) :=
      (Merchants.list ada search .all (d e title)).1.toOption.map Page.total
    "ΑΣ".toList <:+: "ΑΣΑ".toList ∧
      found .memory "ΑΣ" "ΑΣΑ" = some 0 ∧ found .sqlite "ΑΣ" "ΑΣΑ" = some 1 ∧
      "b".toList <:+: "a\x00b".toList ∧
      found .memory "b" "a\x00b" = some 1 ∧ found .sqlite "b" "a\x00b" = some 0 := by
  decide +kernel

end Gazetteer
