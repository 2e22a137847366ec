import Gazetteer.Proofs.Pages

/-!
# Pages far behind the end

The database is given limit and offset as signed words. A limit past them is read as none, which
shows in longer lists only than there are ids. An offset past them is read as zero: pages that far
behind the end of the list are not empty but the first page once more.

* `Paging.boundedCut_large`, `Paging.boundedCut_unlimited`: what is cut past the signed words.
* `Paging.boundedCut_small`: bounds that are signed words cut every list in the right places.
* `Paging.pages_wrap`: which pages are cut in the right places, and what the others are.
-/

set_option autoImplicit false

namespace Gazetteer.Paging

open Engine (toSigned_of_lt toSigned_neg keepSigned_small keepSigned_toSigned)

variable {α : Type} {p : Paging}

theorem pos_of_large (large : 2 ^ 63 ≤ (p.page - 1) * p.perPage) : 0 < p.page ∧ 0 < p.perPage := by
  have far : 0 < (p.page - 1) * p.perPage := Nat.lt_of_lt_of_le (by decide) large
  have pages : 0 < p.page - 1 := Nat.pos_of_mul_pos_right far
  exact ⟨by omega, Nat.pos_of_mul_pos_left far⟩

theorem boundedCut_small (offset : (p.page - 1) * p.perPage < 2 ^ 63) (size : p.perPage < 2 ^ 63)
    (rows : List α) : p.boundedCut rows = p.cut rows := by
  by_cases none : p.page = 0 ∨ p.perPage = 0
  · exact boundedCut_none none rows
  · have page : 0 < p.page := by omega
    have pos : 0 < p.perPage := by omega
    have word : (p.page - 1) * p.perPage < 2 ^ 64 := Nat.lt_trans offset (by decide)
    rw [boundedCut_of_pos page pos word, toSigned_of_lt offset, Int.toNat_natCast,
      keepSigned_small size]
    exact (cut_of_pos page pos word rows).symm

/-- No row is passed over when the offset is no signed word. -/
theorem boundedCut_large (offset : (p.page - 1) * p.perPage < 2 ^ 64)
    (large : 2 ^ 63 ≤ (p.page - 1) * p.perPage) (rows : List α) :
    p.boundedCut rows = keepSigned (toSigned p.perPage) rows := by
  obtain ⟨page, pos⟩ := pos_of_large large
  rw [boundedCut_of_pos page pos offset,
    Int.toNat_of_nonpos (Int.le_of_lt (toSigned_neg large offset)), List.drop_zero]

/-- Nor is any row left out when the limit is none. -/
theorem boundedCut_unlimited (page : 0 < p.page) (offset : (p.page - 1) * p.perPage < 2 ^ 63)
    (size : p.perPage < 2 ^ 64) (large : 2 ^ 63 ≤ p.perPage) (rows : List α) :
    p.boundedCut rows = rows.drop ((p.page - 1) * p.perPage) := by
  have pos : 0 < p.perPage := Nat.lt_of_lt_of_le (by decide) large
  rw [boundedCut_of_pos page pos (Nat.lt_trans offset (by decide)), toSigned_of_lt offset,
    Int.toNat_natCast, keepSigned, if_pos (toSigned_neg large size)]

/-- There are no rows behind such an offset, as there are no ids for them. -/
theorem cut_far {rows : List α} (few : rows.length ≤ 2 ^ 63)
    (offset : (p.page - 1) * p.perPage < 2 ^ 64) (large : 2 ^ 63 ≤ (p.page - 1) * p.perPage) :
    p.cut rows = [] := by
  obtain ⟨page, pos⟩ := pos_of_large large
  have past : rows.drop ((p.page - 1) * p.perPage) = [] :=
    List.drop_of_length_le (Nat.le_trans few large)
  calc p.cut rows = (rows.drop ((p.page - 1) * p.perPage)).take p.perPage :=
        cut_of_pos page pos offset rows
    _ = [] := by rw [past, List.take_nil]

theorem cut_first (pos : 0 < p.perPage) (rows : List α) :
    cut ⟨1, p.perPage⟩ rows = rows.take p.perPage := by
  rw [cut_of_pos Nat.one_pos pos (by simp), Nat.sub_self, Nat.zero_mul, List.drop_zero]

/-- One row is enough to show an offset that is read as zero. -/
theorem offset_of_agrees (size : p.perPage < 2 ^ 64) (offset : (p.page - 1) * p.perPage < 2 ^ 64)
    (agrees : ∀ rows : List Unit, p.boundedCut rows = p.cut rows) :
    (p.page - 1) * p.perPage < 2 ^ 63 := by
  by_contra not
  have large : 2 ^ 63 ≤ (p.page - 1) * p.perPage := Nat.not_lt.1 not
  have one : [()].length ≤ 2 ^ 63 := by decide
  have fits : [()].length ≤ p.perPage := (pos_of_large large).2
  have kept := agrees [()]
  rw [boundedCut_large offset large, cut_far one offset large, keepSigned_toSigned size one,
    List.take_of_length_le fits] at kept
  cases kept

/-- A limit that is read as none shows as soon as there is one row more than fills the page. -/
theorem perPage_of_agrees (page : 0 < p.page) (size : p.perPage < 2 ^ 64)
    (small : (p.page - 1) * p.perPage < 2 ^ 63)
    (agrees : ∀ rows : List Unit, p.boundedCut rows = p.cut rows) : p.perPage < 2 ^ 63 := by
  by_contra not
  have large : 2 ^ 63 ≤ p.perPage := Nat.not_lt.1 not
  have kept := agrees (List.replicate ((p.page - 1) * p.perPage + (p.perPage + 1)) ())
  rw [boundedCut_unlimited page small size large, cut_of_pos page (by omega) (Nat.lt_trans small (by decide)),
    List.drop_replicate, Nat.add_sub_cancel_left, List.take_replicate] at kept
  have lengths := congrArg List.length kept
  rw [List.length_replicate, List.length_replicate] at lengths
  omega

/-- Bounds that are unsigned words cut all lists in the right places exactly if no page is asked for
or both are signed words. Of lists no longer than there are ids, the empty one is always cut so, and
the others are exactly if the offset is a signed word: behind that, the rows of the first page take
the place of none. -/
theorem pages_wrap (size : p.perPage < 2 ^ 64) (offset : (p.page - 1) * p.perPage < 2 ^ 64) :
    ((∀ (α : Type) (rows : List α), p.boundedCut rows = p.cut rows) ↔
      p.page = 0 ∨ p.perPage = 0 ∨ (p.page - 1) * p.perPage < 2 ^ 63 ∧ p.perPage < 2 ^ 63) ∧
    ∀ (α : Type) (rows : List α), rows.length ≤ 2 ^ 63 →
      (p.boundedCut rows = p.cut rows ↔ rows = [] ∨ (p.page - 1) * p.perPage < 2 ^ 63) ∧
      (2 ^ 63 ≤ (p.page - 1) * p.perPage →
        p.cut rows = [] ∧ p.boundedCut rows = cut ⟨1, p.perPage⟩ rows) := by
  have wrapped (α : Type) (rows : List α) (few : rows.length ≤ 2 ^ 63)
      (large : 2 ^ 63 ≤ (p.page - 1) * p.perPage) : p.boundedCut rows = rows.take p.perPage := by
    rw [boundedCut_large offset large, keepSigned_toSigned size few]
  refine ⟨⟨?small, ?agrees⟩, fun α rows few => ⟨⟨?inside, ?kept⟩, ?first⟩⟩
  case small =>
    intro agrees
    by_cases page : p.page = 0
    · exact .inl page
    · have small := offset_of_agrees size offset (agrees Unit)
      have limit := perPage_of_agrees (Nat.pos_of_ne_zero page) size small (agrees Unit)
      exact .inr (.inr ⟨small, limit⟩)
  case agrees =>
    rintro (page | none | ⟨small, limit⟩) α rows
    · exact boundedCut_none (.inl page) rows
    · exact boundedCut_none (.inr none) rows
    · exact boundedCut_small small limit rows
  case inside =>
    intro same
    by_contra not
    obtain ⟨rest, large⟩ := not_or.1 not
    have pos : 0 < p.perPage :=
      (pos_of_large (Nat.not_lt.1 large)).2
    rw [wrapped α rows few (Nat.not_lt.1 large), cut_far few offset (Nat.not_lt.1 large),
      List.take_eq_nil_iff] at same
    rcases same with none | nil
    · omega
    · exact rest nil
  case kept =>
    rintro (rfl | small)
    · by_cases large : 2 ^ 63 ≤ (p.page - 1) * p.perPage
      · rw [wrapped α [] few large, cut_far few offset large, List.take_nil]
      · exact Engine.sqlite.page_agrees ⟨Nat.not_le.1 large, size⟩ few
    · exact Engine.sqlite.page_agrees ⟨small, size⟩ few
  case first =>
    intro large
    have pos : 0 < p.perPage := (pos_of_large large).2
    exact ⟨cut_far few offset large, by rw [wrapped α rows few large, cut_first pos]⟩

/-- Of pages with two rows, the last one that is cut in the right place, and the one behind it. -/
theorem page_behind_wraps :
    let p : Paging := ⟨2 ^ 62, 2⟩
    let q : Paging := ⟨2 ^ 62 + 1, 2⟩
    let rows := ["Bakery", "Butcher", "Cafe"]
    (p.perPage < 2 ^ 64 ∧ (p.page - 1) * p.perPage < 2 ^ 64 ∧
      ∀ (α : Type) (rows : List α), p.boundedCut rows = p.cut rows) ∧
    q.perPage < 2 ^ 64 ∧ (q.page - 1) * q.perPage < 2 ^ 64 ∧ rows.length ≤ 2 ^ 63 ∧
      2 ^ 63 ≤ (q.page - 1) * q.perPage ∧ q.cut rows = [] ∧
      q.boundedCut rows = ["Bakery", "Butcher"] := by
  intro p q rows
  have before : (p.page - 1) * p.perPage < 2 ^ 64 := by decide
  have behind : (q.page - 1) * q.perPage < 2 ^ 64 := by decide
  have large : 2 ^ 63 ≤ (q.page - 1) * q.perPage := by decide
  have small : (p.page - 1) * p.perPage < 2 ^ 63 ∧ p.perPage < 2 ^ 63 := by decide
  have every := (pages_wrap (by decide) before).1.2 (.inr (.inr small))
  obtain ⟨none, first⟩ :=
    ((pages_wrap (by decide) behind).2 String rows (by decide)).2 large
  exact ⟨⟨by decide, before, every⟩, by decide, behind, by decide, large, none, first⟩

/-- The page in front of which there are `2 ^ 63` rows holds the only row of a list. -/
theorem far_page_filled :
    let p : Paging := ⟨2 ^ 63 + 1, 1⟩
    p.perPage < 2 ^ 64 ∧ (p.page - 1) * p.perPage < 2 ^ 64 ∧
      p.boundedCut ["Bakery"] = ["Bakery"] ∧ p.cut ["Bakery"] = [] := by
  intro p
  have offset : (p.page - 1) * p.perPage < 2 ^ 64 := by decide
  have large : 2 ^ 63 ≤ (p.page - 1) * p.perPage := by decide
  refine ⟨by decide, offset, ?_, cut_far (by decide) offset large⟩
  rw [boundedCut_large offset large]
  decide

end Gazetteer.Paging
