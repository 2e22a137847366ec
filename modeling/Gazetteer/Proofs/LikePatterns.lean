import Gazetteer.Proofs.LikeSearch
import Mathlib

/-!
# A search text is taken literally

A pattern is read piece by piece: any run of characters, any one character, or a literal one. The
search text is put between two runs with a backslash in front of its special characters, and so
comes back as literal pieces, whatever it holds.

* `Piece`, `pieces`: what a pattern is made of; a backslash at its end makes nothing.
* `Matches`, `Accepts`: the texts that pieces and patterns stand for.
* `covers_iff`: the matcher decides them.
* `pieces_escape`, `escape_eq_guards`: what the backslashes do, and in which order they are put.
* `pattern_exact`: what the pattern of a search stands for.
-/

set_option autoImplicit false

namespace Gazetteer.Like

open Gazetteer.Text (foldAscii trimChars trim)

/-! ## What a pattern means -/

/-- A piece of a pattern. -/
inductive Piece where
  /-- Any characters, or none. -/
  | run
  /-- Any one character. -/
  | one
  | literal (c : Char)
  deriving DecidableEq

/-- What a character stands for that no backslash stands in front of. -/
def pieceOf (c : Char) : Piece :=
  if c = '%' then .run else if c = '_' then .one else .literal c

/-- The pieces of a pattern, unless it ends within an escape. -/
def pieces : List Char → Option (List Piece)
  | [] => some []
  | '\\' :: c :: pattern => (pieces pattern).map (.literal c :: ·)
  | ['\\'] => none
  | c :: pattern => (pieces pattern).map (pieceOf c :: ·)

/-- The pieces one after another make up the text, letters without regard to ASCII case. -/
inductive Matches : List Piece → List Char → Prop
  | nil : Matches [] []
  | run {ps : List Piece} {text : List Char} (part : List Char) (rest : Matches ps text) :
    Matches (.run :: ps) (part ++ text)
  | one {ps : List Piece} {text : List Char} (x : Char) (rest : Matches ps text) :
    Matches (.one :: ps) (x :: text)
  | literal {ps : List Piece} {text : List Char} {c x : Char} (h : foldAscii c = foldAscii x)
    (rest : Matches ps text) : Matches (.literal c :: ps) (x :: text)

/-- The pattern stands for the text. -/
def Accepts (pattern text : List Char) : Prop := ∃ ps, pieces pattern = some ps ∧ Matches ps text

/-! ## One piece at a time -/

theorem matches_nil {text : List Char} : Matches [] text ↔ text = [] :=
  ⟨fun h => by cases h; rfl, fun h => h ▸ .nil⟩

theorem matches_run {ps : List Piece} {text : List Char} :
    Matches (.run :: ps) text ↔ ∃ rest, rest <:+ text ∧ Matches ps rest := by
  constructor
  · intro h
    cases h with
    | run part rest => exact ⟨_, List.suffix_append _ _, rest⟩
  · rintro ⟨rest, ⟨part, rfl⟩, h⟩
    exact .run part h

theorem matches_one {ps : List Piece} {x : Char} {text : List Char} :
    Matches (.one :: ps) (x :: text) ↔ Matches ps text :=
  ⟨fun h => by cases h; assumption, .one x⟩

theorem matches_literal {c : Char} {ps : List Piece} {x : Char} {text : List Char} :
    Matches (.literal c :: ps) (x :: text) ↔ foldAscii c = foldAscii x ∧ Matches ps text :=
  ⟨fun h => by cases h; constructor <;> assumption, fun h => .literal h.1 h.2⟩

/-! ## One piece of a pattern at a time -/

section

variable {first pattern text : List Char} {c x : Char}

/-- The pattern begins with a piece. -/
def Begins (p : Piece) (first pattern : List Char) : Prop :=
  pieces first = (pieces pattern).map (p :: ·)

theorem begins_escaped (c : Char) (pattern : List Char) :
    Begins (.literal c) ('\\' :: c :: pattern) pattern := by
  rw [Begins, pieces]

theorem begins_plain {c : Char} (h : c ≠ '\\') (pattern : List Char) :
    Begins (pieceOf c) (c :: pattern) pattern := by
  rw [Begins, pieces] <;> simp [h]

theorem begins_literal {c : Char} (backslash : c ≠ '\\') (percent : c ≠ '%')
    (underscore : c ≠ '_') (pattern : List Char) : Begins (.literal c) (c :: pattern) pattern := by
  have piece : pieceOf c = .literal c := by rw [pieceOf, if_neg percent, if_neg underscore]
  exact piece ▸ begins_plain backslash pattern

theorem Begins.accepts {p : Piece} (h : Begins p first pattern) :
    Accepts first text ↔ ∃ ps, pieces pattern = some ps ∧ Matches (p :: ps) text := by
  rw [Begins] at h
  simp [Accepts, h]

theorem Begins.accepts_run (h : Begins .run first pattern) :
    Accepts first text ↔ ∃ rest, rest <:+ text ∧ Accepts pattern rest := by
  rw [h.accepts]
  simp only [matches_run]
  constructor
  · rintro ⟨ps, read, rest, inside, found⟩
    exact ⟨rest, inside, ps, read, found⟩
  · rintro ⟨rest, inside, ps, read, found⟩
    exact ⟨ps, read, rest, inside, found⟩

theorem Begins.accepts_one (h : Begins .one first pattern) :
    Accepts first (x :: text) ↔ Accepts pattern text := by
  rw [h.accepts]
  simp only [matches_one]
  rfl

theorem Begins.accepts_literal (h : Begins (.literal c) first pattern) :
    Accepts first (x :: text) ↔ foldAscii c = foldAscii x ∧ Accepts pattern text := by
  rw [h.accepts]
  simp only [matches_literal]
  constructor
  · rintro ⟨ps, read, folded, found⟩
    exact ⟨folded, ps, read, found⟩
  · rintro ⟨folded, ps, read, found⟩
    exact ⟨ps, read, folded, found⟩

/-- Nothing but a run matches the empty text. -/
theorem Begins.not_accepts_nil {p : Piece} (h : Begins p first pattern) (ne : p ≠ .run) :
    ¬Accepts first [] := by
  rw [h.accepts]
  rintro ⟨ps, -, found⟩
  cases p with
  | run => exact ne rfl
  | _ => cases found

end

theorem ne_backslash {c : Char} {pattern : List Char}
    (escaping : ∀ (head : Char) (tail : List Char), c = '\\' → pattern = head :: tail → False)
    (dangling : c = '\\' → pattern = [] → False) : c ≠ '\\' := by
  intro backslash
  cases pattern with
  | nil => exact dangling backslash rfl
  | cons head tail => exact escaping head tail backslash rfl

/-- The matcher decides whether a pattern stands for a text. -/
theorem covers_iff (pattern text : List Char) :
    covers pattern text = true ↔ Accepts pattern text := by
  fun_induction covers pattern text with
  | case1 text => simp [Accepts, pieces, matches_nil]
  | case2 pattern text ih =>
    have begins : Begins .run ('%' :: pattern) pattern := begins_plain (by decide) pattern
    rw [someEnd_iff, begins.accepts_run]
    simp only [ih]
  | case3 c pattern x text ih =>
    rw [Bool.and_eq_true, ih, (begins_escaped c pattern).accepts_literal, same, beq_iff_eq]
  | case4 c pattern =>
    have none := (begins_escaped c pattern).not_accepts_nil Piece.noConfusion
    simp [none]
  | case5 text => simp [Accepts, pieces]
  | case6 pattern x text ih =>
    have begins : Begins .one ('_' :: pattern) pattern := begins_plain (by decide) pattern
    rw [ih, begins.accepts_one]
  | case7 pattern =>
    have begins : Begins .one ('_' :: pattern) pattern := begins_plain (by decide) pattern
    simp [begins.not_accepts_nil Piece.noConfusion]
  | case8 c pattern x text percent escaping dangling underscore ih =>
    have backslash : c ≠ '\\' := ne_backslash escaping dangling
    rw [Bool.and_eq_true, ih,
      (begins_literal backslash percent underscore pattern).accepts_literal, same, beq_iff_eq]
  | case9 c pattern percent escaping dangling underscore =>
    have backslash : c ≠ '\\' := ne_backslash escaping dangling
    have none := (begins_literal backslash percent underscore pattern).not_accepts_nil
      Piece.noConfusion
    simp [none]

/-! ## What the backslashes do -/

/-- A character behind its backslash, or one that needs none, is a literal piece. -/
theorem begins_escape (c : Char) (pattern : List Char) :
    Begins (.literal c) (escape [c] ++ pattern) pattern := by
  by_cases special : c = '\\' ∨ c = '%' ∨ c = '_'
  · rw [escape_special special]
    exact begins_escaped c pattern
  · obtain ⟨backslash, percent, underscore⟩ : c ≠ '\\' ∧ c ≠ '%' ∧ c ≠ '_' := by
      simpa [not_or] using special
    rw [escape_plain special]
    exact begins_literal backslash percent underscore pattern

/-- An escaped text is read back as its characters, each of them a literal piece. -/
theorem pieces_escape (cs pattern : List Char) :
    pieces (escape cs ++ pattern) = (pieces pattern).map (cs.map .literal ++ ·) := by
  induction cs with
  | nil => simp [escape]
  | cons c rest ih =>
    rw [escape_cons, List.append_assoc, begins_escape c, ih, Option.map_map]
    rfl

/-- Puts a backslash in front of one character wherever it stands. -/
def guard (c : Char) (cs : List Char) : List Char :=
  cs.flatMap fun x => if x = c then ['\\', x] else [x]

/-- The special characters can be guarded one after another, as long as the backslash is first. -/
theorem escape_eq_guards (cs : List Char) :
    escape cs = guard '_' (guard '%' (guard '\\' cs)) := by
  rw [guard, guard, guard, List.flatMap_assoc, List.flatMap_assoc, escape]
  congr 1
  funext c
  by_cases backslash : c = '\\'
  · simp [backslash]
  · by_cases percent : c = '%'
    · simp [percent]
    · by_cases underscore : c = '_' <;> simp [backslash, percent, underscore]

/-- With the backslash last, a backslash that was put in front of a percent sign gets one itself. -/
example : guard '\\' (guard '_' (guard '%' ['%'])) = ['\\', '\\', '%'] := by decide

/-! ## The pattern of a search -/

/-- The pattern of a search holds its text with every special character guarded, the backslash
first. It is read as the characters of the text, each taken literally, between two runs, so it ends
within no escape, and it stands for the texts of which a part is the search text but for ASCII case.
Those are the ones that the matcher finds. -/
theorem pattern_exact (search text : String) :
    pattern search.toList =
      '%' :: (guard '_' (guard '%' (guard '\\' (trim search).toList)) ++ ['%']) ∧
    pieces (pattern search.toList) =
      some (.run :: ((trim search).toList.map .literal ++ [.run])) ∧
    (Accepts (pattern search.toList) text.toList ↔
      ∃ part, part <:+: text.toList ∧
        part.map foldAscii = (trim search).toList.map foldAscii) ∧
    (covers (pattern search.toList) text.toList = true ↔
      Accepts (pattern search.toList) text.toList) := by
  have trimmed : (trim search).toList = trimChars search.toList := String.toList_ofList
  have shape : pattern search.toList = '%' :: (escape (trim search).toList ++ ['%']) := by
    rw [pattern, trimmed]
  have matched := covers_iff (pattern search.toList) text.toList
  refine ⟨?_, ?_, ?_, matched⟩
  · rw [shape, escape_eq_guards]
  · have begins := begins_plain (c := '%') (by decide) (escape (trim search).toList ++ ['%'])
    rw [shape, begins, pieces_escape]
    rfl
  · rw [← matched, shape, covers_pattern, List.infix_map_iff]
    exact exists_congr fun part => and_congr_right fun _ => eq_comm

end Gazetteer.Like
