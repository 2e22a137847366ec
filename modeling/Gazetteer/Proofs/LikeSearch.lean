import Gazetteer.Store.Engine
import Mathlib.Algebra.Group.Nat.Defs

/-!
# A search is the same in both engines

One engine looks for the search text in lowercase, the other one tries a pattern that ignores ASCII
case. On texts whose lowercase form is the ASCII one they find the same rows, and they cut them to
the same page as long as its bounds fit into a word.

* `AsciiCased`, `Verbatim`: the characters on which the engines agree.
* `covers_pattern`: a pattern covers what contains its text.
* `Paging.InWords`: the bounds of a page fit into words.
* `select_agrees`, `page_agrees`, `atMost_agrees`: the searches and the cuts.
-/

set_option autoImplicit false

namespace Gazetteer

open Gazetteer.Text (foldAscii lowerAfter lowerChar lowercase occursIn trimChars trim)

/-! ## Characters -/

/-- The character is not the NUL, and its lowercase form is the ASCII one. -/
def AsciiCased (c : Char) : Prop := c ≠ '\x00' ∧ lowerAfter [] [c] = [foldAscii c]

instance : DecidablePred AsciiCased :=
  fun c => inferInstanceAs (Decidable (c ≠ '\x00' ∧ lowerAfter [] [c] = [foldAscii c]))

/-- The database does not read another character in place of this one. -/
def Verbatim (c : Char) : Prop := c ≠ '\uFFFE' ∧ c ≠ '\uFFFF'

instance : DecidablePred Verbatim :=
  fun c => inferInstanceAs (Decidable (c ≠ '\uFFFE' ∧ c ≠ '\uFFFF'))

theorem lowerChar_of_asciiCased {c : Char} (h : AsciiCased c) :
    c ≠ 'Σ' ∧ lowerChar c = [foldAscii c] := by
  have hl := h.2
  rw [lowerAfter] at hl
  have ne : c ≠ 'Σ' := by
    rintro rfl
    revert hl
    decide
  rw [if_neg ne, lowerAfter, List.append_nil] at hl
  exact ⟨ne, hl⟩

theorem lowerAfter_of_asciiCased {cs : List Char} (h : ∀ c ∈ cs, AsciiCased c)
    (before : List Char) : lowerAfter before cs = cs.map foldAscii := by
  induction cs generalizing before with
  | nil => rfl
  | cons c rest ih =>
    obtain ⟨ne, hl⟩ := lowerChar_of_asciiCased (h c List.mem_cons_self)
    rw [lowerAfter, if_neg ne, hl, ih fun c hc => h c (List.mem_cons_of_mem _ hc)]
    rfl

theorem mem_of_mem_trimChars {c : Char} {cs : List Char} (h : c ∈ trimChars cs) : c ∈ cs := by
  rw [trimChars, List.mem_reverse] at h
  have h := (List.dropWhile_suffix _).subset h
  rw [List.mem_reverse] at h
  exact (List.dropWhile_suffix _).subset h

namespace Like

/-! ## What a pattern covers -/

theorem someEnd_iff (p : List Char → Bool) (text : List Char) :
    someEnd p text = true ↔ ∃ rest, rest <:+ text ∧ p rest = true := by
  induction text with
  | nil => simp [someEnd]
  | cons c text ih =>
    rw [someEnd, Bool.or_eq_true, ih]
    constructor
    · rintro (h | ⟨rest, hs, hp⟩)
      · exact ⟨_, List.suffix_refl _, h⟩
      · exact ⟨rest, hs.trans (List.suffix_cons c text), hp⟩
    · rintro ⟨rest, hs, hp⟩
      obtain rfl | hs := List.suffix_cons_iff.1 hs
      · exact .inl hp
      · exact .inr ⟨rest, hs, hp⟩

theorem escape_cons (c : Char) (cs : List Char) : escape (c :: cs) = escape [c] ++ escape cs := by
  simp [escape]

theorem escape_special {c : Char} (h : c = '\\' ∨ c = '%' ∨ c = '_') :
    escape [c] = ['\\', c] := by
  simp [escape, h]

theorem escape_plain {c : Char} (h : ¬(c = '\\' ∨ c = '%' ∨ c = '_')) : escape [c] = [c] := by
  simp [escape, h]

theorem covers_all (text : List Char) : covers ['%'] text = true := by
  rw [covers, someEnd_iff]
  exact ⟨[], List.nil_suffix, rfl⟩

/-- A literal character of a pattern covers one character of the text. -/
theorem covers_literal (c : Char) (pattern : List Char) (x : Char) (text : List Char) :
    covers (escape [c] ++ pattern) (x :: text) = (same c x && covers pattern text) := by
  by_cases special : c = '\\' ∨ c = '%' ∨ c = '_'
  · simp [escape_special special, covers]
  · have ne : c ≠ '\\' ∧ c ≠ '%' ∧ c ≠ '_' := by simpa [not_or] using special
    simp [escape_plain special, covers, ne]

theorem covers_literal_nil (c : Char) (pattern : List Char) :
    covers (escape [c] ++ pattern) [] = false := by
  by_cases special : c = '\\' ∨ c = '%' ∨ c = '_'
  · simp [escape_special special, covers]
  · have ne : c ≠ '\\' ∧ c ≠ '%' ∧ c ≠ '_' := by simpa [not_or] using special
    simp [escape_plain special, covers, ne]

/-- A pattern of literal characters covers what begins with them. -/
theorem covers_escape (needle text : List Char) :
    covers (escape needle ++ ['%']) text = true ↔
      needle.map foldAscii <+: text.map foldAscii := by
  induction needle generalizing text with
  | nil => simp [escape, covers_all]
  | cons c rest ih =>
    rw [escape_cons, List.append_assoc]
    cases text with
    | nil => simp [covers_literal_nil]
    | cons x text =>
      rw [covers_literal, Bool.and_eq_true, ih]
      simp [same, List.cons_prefix_cons]

theorem covers_pattern (needle text : List Char) :
    covers ('%' :: (escape needle ++ ['%'])) text = true ↔
      needle.map foldAscii <:+: text.map foldAscii := by
  rw [covers, someEnd_iff, List.infix_iff_prefix_suffix]
  constructor
  · rintro ⟨rest, hs, hc⟩
    exact ⟨_, (covers_escape needle rest).1 hc, hs.map foldAscii⟩
  · rintro ⟨_, hp, hs⟩
    obtain ⟨rest, hr, rfl⟩ := List.suffix_map_iff.1 hs
    exact ⟨rest, hr, (covers_escape needle rest).2 hp⟩

end Like

/-! ## Searching -/

namespace Like

/-- Nothing is cut off and nothing is replaced in a text without the characters that matter. -/
theorem visible_eq_self {cs : List Char} (h : ∀ c ∈ cs, c ≠ '\x00' ∧ Verbatim c) :
    visible cs = cs := by
  rw [visible]
  induction cs with
  | nil => rfl
  | cons c rest ih =>
    obtain ⟨nul, ne, ne'⟩ := h c List.mem_cons_self
    have tail := ih fun c hc => h c (List.mem_cons_of_mem _ hc)
    rw [List.takeWhile_cons, if_pos (bne_iff_ne.2 nul), List.map_cons, tail,
      if_neg (not_or.2 ⟨ne, ne'⟩)]

theorem mem_escape {c : Char} {cs : List Char} (h : c ∈ escape cs) : c = '\\' ∨ c ∈ cs := by
  obtain ⟨x, hx, hc⟩ := List.mem_flatMap.1 h
  split at hc
  · obtain rfl | hc := List.mem_cons.1 hc
    · exact .inl rfl
    · exact .inr (List.mem_singleton.1 hc ▸ hx)
  · exact .inr (List.mem_singleton.1 hc ▸ hx)

end Like

/-- The text holds only characters on which the engines agree. -/
def Searchable (text : String) : Prop := ∀ c ∈ text.toList, AsciiCased c ∧ Verbatim c

theorem lowercase_of_searchable {text : String} (h : Searchable text) :
    (lowercase text).toList = text.toList.map foldAscii := by
  rw [lowercase, String.toList_ofList, lowerAfter_of_asciiCased fun c hc => (h c hc).1]

theorem Searchable.trim {text : String} (h : Searchable text) : Searchable (trim text) := by
  intro c hc
  rw [Text.trim, String.toList_ofList] at hc
  exact h c (mem_of_mem_trimChars hc)

theorem visible_of_searchable {text : String} (h : Searchable text) :
    Like.visible text.toList = text.toList :=
  Like.visible_eq_self fun c hc => ⟨(h c hc).1.1, (h c hc).2⟩

theorem visible_pattern {search : String} (h : Searchable search) :
    Like.visible (Like.pattern search.toList) = Like.pattern search.toList := by
  refine Like.visible_eq_self ?_
  have percent : '%' ≠ '\x00' ∧ Verbatim '%' := ⟨by decide, by decide, by decide⟩
  have backslash : '\\' ≠ '\x00' ∧ Verbatim '\\' := ⟨by decide, by decide, by decide⟩
  intro c hc
  rw [Like.pattern, List.mem_cons, List.mem_append, List.mem_singleton] at hc
  obtain rfl | hc | rfl := hc
  · exact percent
  · obtain rfl | hc := Like.mem_escape hc
    · exact backslash
    · have found := h c (mem_of_mem_trimChars hc)
      exact ⟨found.1.1, found.2⟩
  · exact percent

theorem covers_eq_occursIn {search text : String} (hs : Searchable search) (ht : Searchable text) :
    Like.covers (Like.visible (Like.pattern search.toList)) (Like.visible text.toList) =
      occursIn (lowercase (trim search)).toList (lowercase text).toList := by
  rw [visible_pattern hs, visible_of_searchable ht, Bool.eq_iff_iff, Like.pattern,
    Like.covers_pattern, Text.occursIn_iff, lowercase_of_searchable hs.trim,
    lowercase_of_searchable ht, trim, String.toList_ofList]

/-- Over some texts the blank search needs no case of its own. -/
theorem containsFolded_eq {search : String} {texts : List String} (hs : Searchable search)
    (ne : texts ≠ []) (ht : ∀ t ∈ texts, Searchable t) :
    containsFolded search texts = texts.any fun t =>
      Like.covers (Like.visible (Like.pattern search.toList)) (Like.visible t.toList) := by
  have same : (texts.any fun t =>
      Like.covers (Like.visible (Like.pattern search.toList)) (Like.visible t.toList)) =
      texts.any fun t => occursIn (lowercase (trim search)).toList (lowercase t).toList := by
    rw [Bool.eq_iff_iff, List.any_eq_true, List.any_eq_true]
    refine exists_congr fun t => and_congr_right fun h => ?_
    rw [covers_eq_occursIn hs (ht t h)]
  rw [same, containsFolded]
  cases hn : (lowercase (trim search)).toList with
  | cons c rest => rfl
  | nil =>
    obtain ⟨t, rest, rfl⟩ := List.exists_cons_of_ne_nil ne
    have all : occursIn [] (lowercase t).toList = true :=
      (Text.occursIn_iff _ _).2 (List.nil_infix)
    simp [all]

namespace Engine

/-- On texts where the engines agree they find the same rows. -/
theorem select_agrees {α : Type} (e : Engine) {search : String} {texts : α → List String}
    {rows : List α} (hs : Searchable search)
    (short : Like.byteSize (Like.pattern search.toList) ≤ Like.maxBytes)
    (ne : ∀ r, texts r ≠ []) (ht : ∀ r ∈ rows, ∀ t ∈ texts r, Searchable t) :
    e.select search texts rows = .ok (rows.filter fun r => containsFolded search (texts r)) := by
  cases e with
  | memory => rfl
  | sqlite =>
    have fits : decide (Like.maxBytes < Like.byteSize (Like.pattern search.toList)) = false :=
      decide_eq_false (Nat.not_lt.2 short)
    rw [select]
    simp only [fits, Bool.false_and, Bool.false_eq_true, if_false]
    refine congrArg Except.ok (List.filter_congr ?_)
    intro r hr
    rw [containsFolded_eq hs (ne r) (ht r hr)]

/-! ## Cutting -/

theorem toSigned_of_lt {n : Nat} (h : n < 2 ^ 63) : Paging.toSigned n = n := by
  have low : -((2 ^ 64 : Nat) : Int) ≤ (n : Int) * 2 := by omega
  have high : (n : Int) * 2 < ((2 ^ 64 : Nat) : Int) := by omega
  exact Int.bmod_eq_of_le_mul_two low high

theorem bmod_of_large {n m : Nat} (large : (m + 1) / 2 ≤ n) (word : n < m) :
    Int.bmod n m = n - m := by
  have low : ¬(n : Int) < ((m : Int) + 1) / 2 := by omega
  rw [Int.bmod_def, Int.emod_eq_of_lt (Int.natCast_nonneg n) (Int.ofNat_lt.2 word), if_neg low]

theorem toSigned_neg {n : Nat} (large : 2 ^ 63 ≤ n) (word : n < 2 ^ 64) :
    Paging.toSigned n < 0 := by
  have wrapped : Paging.toSigned n = n - (2 ^ 64 : Nat) := bmod_of_large (by omega) word
  omega

theorem keepSigned_small {α : Type} {limit : Nat} (small : limit < 2 ^ 63) (rows : List α) :
    Paging.keepSigned (Paging.toSigned limit) rows = rows.take limit := by
  rw [toSigned_of_lt small, Paging.keepSigned, if_neg (Int.not_lt.2 (Int.natCast_nonneg limit)),
    Int.toNat_natCast]

/-- A limit past the signed words is read as none, and then there are not that many rows. -/
theorem keepSigned_toSigned {α : Type} {limit : Nat} {rows : List α} (word : limit < 2 ^ 64)
    (few : rows.length ≤ 2 ^ 63) :
    Paging.keepSigned (Paging.toSigned limit) rows = rows.take limit := by
  by_cases small : limit < 2 ^ 63
  · exact keepSigned_small small rows
  · have large : 2 ^ 63 ≤ limit := Nat.not_lt.1 small
    have all : rows.length ≤ limit := Nat.le_trans few large
    rw [Paging.keepSigned, if_pos (toSigned_neg large word), List.take_of_length_le all]

end Engine

namespace Paging

variable {p : Paging}

theorem window_none (h : p.page = 0 ∨ p.perPage = 0) : p.window = none := by
  rw [window, if_neg]
  omega

theorem window_of_pos (page : 0 < p.page) (size : 0 < p.perPage)
    (offset : (p.page - 1) * p.perPage < 2 ^ 64) :
    p.window = some ((p.page - 1) * p.perPage, p.perPage) := by
  have word : (p.page - 1) * p.perPage < UInt64.size := offset
  rw [window, if_pos ⟨page, size⟩, Nat.mod_eq_of_lt word]

theorem cut_of_pos {α : Type} {i n : Nat} (hi : 0 < i) (hn : 0 < n) (offset : (i - 1) * n < 2 ^ 64)
    (rows : List α) : cut ⟨i, n⟩ rows = (rows.drop ((i - 1) * n)).take n := by
  have window : window ⟨i, n⟩ = some ((i - 1) * n, n) := window_of_pos hi hn offset
  rw [cut, window]

theorem boundedCut_none {α : Type} (h : p.page = 0 ∨ p.perPage = 0) (rows : List α) :
    p.boundedCut rows = p.cut rows := by
  rw [boundedCut, cut, signedBounds, window_none h]
  rfl

theorem boundedCut_of_pos {α : Type} (page : 0 < p.page) (size : 0 < p.perPage)
    (offset : (p.page - 1) * p.perPage < 2 ^ 64) (rows : List α) :
    p.boundedCut rows = keepSigned (toSigned p.perPage)
      (rows.drop (toSigned ((p.page - 1) * p.perPage)).toNat) := by
  rw [boundedCut, signedBounds, window_of_pos page size offset]

/-- The bounds of the page fit into words. -/
structure InWords (p : Paging) : Prop where
  offset : (p.page - 1) * p.perPage < 2 ^ 63
  perPage : p.perPage < 2 ^ 64

theorem InWords.word (h : p.InWords) : (p.page - 1) * p.perPage < 2 ^ 64 :=
  Nat.lt_trans h.offset (by decide)

end Paging

namespace Engine

theorem page_agrees {α : Type} (e : Engine) {p : Paging} {rows : List α} (h : p.InWords)
    (few : rows.length ≤ 2 ^ 63) : e.page p rows = p.cut rows := by
  cases e with
  | memory => rfl
  | sqlite =>
    rw [page]
    by_cases none : p.page = 0 ∨ p.perPage = 0
    · exact Paging.boundedCut_none none rows
    · have asked : 0 < p.page := by omega
      have size : 0 < p.perPage := by omega
      have less : (rows.drop ((p.page - 1) * p.perPage)).length ≤ 2 ^ 63 := by
        rw [List.length_drop]
        exact Nat.le_trans (Nat.sub_le _ _) few
      rw [Paging.boundedCut_of_pos asked size h.word, toSigned_of_lt h.offset, Int.toNat_natCast,
        keepSigned_toSigned h.perPage less]
      exact (Paging.cut_of_pos asked size h.word rows).symm

theorem atMost_agrees {α : Type} (e : Engine) {limit : Nat} {rows : List α}
    (word : limit < 2 ^ 64) (few : rows.length ≤ 2 ^ 63) :
    e.atMost limit rows = memory.atMost limit rows := by
  cases e with
  | memory => rfl
  | sqlite =>
    rw [atMost, atMost]
    split
    · rfl
    · exact keepSigned_toSigned word few

end Engine

end Gazetteer
