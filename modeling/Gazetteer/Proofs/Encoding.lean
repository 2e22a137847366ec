import Gazetteer.Text.Utf8
import Mathlib

/-!
# Texts come back from their bytes

The reader is fed the bytes of a character one by one. The first of them says how many are missing
and what the second one may be, and the last of them puts the character together again.

* `mem_encodeChar`: a byte below 0x80 is a character of its own.
* `feed_encodeChar`: what the bytes of one character do to the reader.
* `decode?_encode`: a text is read back from its bytes.
* `head?_of_mark`: only a text that begins with a byte order mark has its bytes in front.
-/

set_option autoImplicit false

namespace Gazetteer.Text.Utf8

/-! ## The bytes of a character -/

theorem toNat_valid (c : Char) : c.toNat < 0xD800 ∨ 0xDFFF < c.toNat ∧ c.toNat < 0x110000 := by
  have valid : c.val.toNat.isValidChar := c.valid
  exact valid

theorem toNat_ofNat_of_lt {n : Nat} (h : n < 256) : (UInt8.ofNat n).toNat = n := by
  rw [UInt8.toNat_ofNat']
  omega

/-- The bytes of a character, by its size. -/
theorem encodeChar_eq (c : Char) :
    String.utf8EncodeChar c =
      if c.toNat ≤ 0x7F then [.ofNat c.toNat]
      else if c.toNat ≤ 0x7FF then
        [.ofNat (c.toNat / 0x40 % 0x20 + 0xC0), .ofNat (c.toNat % 0x40 + 0x80)]
      else if c.toNat ≤ 0xFFFF then
        [.ofNat (c.toNat / 0x1000 % 0x10 + 0xE0), .ofNat (c.toNat / 0x40 % 0x40 + 0x80),
          .ofNat (c.toNat % 0x40 + 0x80)]
      else
        [.ofNat (c.toNat / 0x40000 % 8 + 0xF0), .ofNat (c.toNat / 0x1000 % 0x40 + 0x80),
          .ofNat (c.toNat / 0x40 % 0x40 + 0x80), .ofNat (c.toNat % 0x40 + 0x80)] := rfl

/-- A byte below 0x80 stands for itself and never inside another character. -/
theorem mem_encodeChar {c : Char} {b : UInt8} (h : b ∈ String.utf8EncodeChar c) :
    b.toNat = c.toNat ∨ 0x80 ≤ b.toNat := by
  have valid := toNat_valid c
  rw [encodeChar_eq] at h
  split at h
  · obtain rfl := List.mem_singleton.1 h
    exact .inl (toNat_ofNat_of_lt (by omega))
  · right
    split at h
    · simp only [List.mem_cons, List.not_mem_nil, or_false] at h
      obtain rfl | rfl := h <;> rw [toNat_ofNat_of_lt (by omega)] <;> omega
    · split at h <;> simp only [List.mem_cons, List.not_mem_nil, or_false] at h
      · obtain rfl | rfl | rfl := h <;> rw [toNat_ofNat_of_lt (by omega)] <;> omega
      · obtain rfl | rfl | rfl | rfl := h <;> rw [toNat_ofNat_of_lt (by omega)] <;> omega

/-! ## Reading a character -/

namespace Reader

variable {r : Reader} {n : Nat}

theorem feed_single (between : r.missing = 0) (h : n < 0x80) :
    r.feed (UInt8.ofNat n) = { r with missing := 0, read := some (Char.ofNat n) :: r.read } := by
  rw [feed, if_pos between, lead, toNat_ofNat_of_lt (by omega)]
  exact if_pos h

theorem feed_first_of_two (between : r.missing = 0) (low : 0xC2 ≤ n) (high : n ≤ 0xDF) :
    r.feed (UInt8.ofNat n) = ⟨1, n - 0xC0, 0x80, 0xBF, r.read⟩ := by
  rw [feed, if_pos between, lead, toNat_ofNat_of_lt (by omega)]
  rw [if_neg (by omega), if_pos ⟨low, high⟩]

theorem feed_first_of_three (between : r.missing = 0) (low : 0xE0 ≤ n) (high : n ≤ 0xEF) :
    r.feed (UInt8.ofNat n) = ⟨2, n - 0xE0, if n = 0xE0 then 0xA0 else 0x80,
      if n = 0xED then 0x9F else 0xBF, r.read⟩ := by
  rw [feed, if_pos between, lead, toNat_ofNat_of_lt (by omega)]
  rw [if_neg (by omega), if_neg (by omega)]
  by_cases least : n = 0xE0
  · subst least
    rfl
  · by_cases surrogates : n = 0xED
    · subst surrogates
      rfl
    · rw [if_neg least, if_neg surrogates, if_neg least, if_neg surrogates,
        if_pos ⟨by omega, high⟩]

theorem feed_first_of_four (between : r.missing = 0) (low : 0xF0 ≤ n) (high : n ≤ 0xF4) :
    r.feed (UInt8.ofNat n) = ⟨3, n - 0xF0, if n = 0xF0 then 0x90 else 0x80,
      if n = 0xF4 then 0x8F else 0xBF, r.read⟩ := by
  rw [feed, if_pos between, lead, toNat_ofNat_of_lt (by omega)]
  obtain rfl | rfl | rfl | rfl | rfl : n = 0xF0 ∨ n = 0xF1 ∨ n = 0xF2 ∨ n = 0xF3 ∨ n = 0xF4 := by
    omega
  all_goals rfl

/-- A byte in the range that is expected adds its bits. -/
theorem feed_continuing {missing bits : Nat} {low high : UInt8} {read : List (Option Char)}
    (small : n < 256) (least : low.toNat ≤ n) (greatest : n ≤ high.toNat) :
    (Reader.mk (missing + 2) bits low high read).feed (UInt8.ofNat n) =
      ⟨missing + 1, bits * 64 + (n - 0x80), 0x80, 0xBF, read⟩ := by
  have within : low ≤ UInt8.ofNat n ∧ UInt8.ofNat n ≤ high := by
    rw [UInt8.le_iff_toNat_le, UInt8.le_iff_toNat_le, toNat_ofNat_of_lt small]
    exact ⟨least, greatest⟩
  rw [feed, if_neg (Nat.succ_ne_zero _), if_pos within, toNat_ofNat_of_lt small]
  exact if_neg (by simp)

/-- The last byte of a character completes it. -/
theorem feed_last {bits : Nat} {low high : UInt8} {read : List (Option Char)} (small : n < 256)
    (least : low.toNat ≤ n) (greatest : n ≤ high.toNat) :
    (Reader.mk 1 bits low high read).feed (UInt8.ofNat n) =
      ⟨0, 0, 0x80, 0xBF, some (Char.ofNat (bits * 64 + (n - 0x80))) :: read⟩ := by
  have within : low ≤ UInt8.ofNat n ∧ UInt8.ofNat n ≤ high := by
    rw [UInt8.le_iff_toNat_le, UInt8.le_iff_toNat_le, toNat_ofNat_of_lt small]
    exact ⟨least, greatest⟩
  rw [feed, if_neg Nat.one_ne_zero, if_pos within, toNat_ofNat_of_lt small]
  rfl

/-- The bytes of a character are read as the character, and the reader is between two characters
again. -/
theorem feed_encodeChar (c : Char) (between : r.missing = 0) :
    ((String.utf8EncodeChar c).foldl feed r).missing = 0 ∧
      ((String.utf8EncodeChar c).foldl feed r).read = some c :: r.read := by
  have valid := toNat_valid c
  have whole : ∀ n, n = c.toNat → some (Char.ofNat n) :: r.read = some c :: r.read := by
    rintro n rfl
    rw [Char.ofNat_toNat]
  rw [encodeChar_eq]
  split
  · next single =>
    rw [List.foldl_cons, feed_single between (by omega)]
    exact ⟨rfl, whole _ rfl⟩
  · split
    · next two =>
      rw [List.foldl_cons, List.foldl_cons, feed_first_of_two between (by omega) (by omega),
        feed_last (by omega) (by simp) (by simp; omega)]
      exact ⟨rfl, whole _ (by omega)⟩
    · split
      · next three =>
        rw [List.foldl_cons, List.foldl_cons, List.foldl_cons,
          feed_first_of_three between (by omega) (by omega),
          feed_continuing (by omega) (by split <;> simp; omega) (by split <;> simp <;> omega),
          feed_last (by omega) (by simp) (by simp; omega)]
        exact ⟨rfl, whole _ (by omega)⟩
      · next four =>
        rw [List.foldl_cons, List.foldl_cons, List.foldl_cons, List.foldl_cons,
          feed_first_of_four between (by omega) (by omega),
          feed_continuing (by omega) (by split <;> simp; omega) (by split <;> simp <;> omega),
          feed_continuing (by omega) (by simp) (by simp; omega),
          feed_last (by omega) (by simp) (by simp; omega)]
        exact ⟨rfl, whole _ (by omega)⟩

theorem feed_encode (cs : List Char) (between : r.missing = 0) :
    ((cs.flatMap String.utf8EncodeChar).foldl feed r).missing = 0 ∧
      ((cs.flatMap String.utf8EncodeChar).foldl feed r).read = (cs.map some).reverse ++ r.read := by
  induction cs generalizing r with
  | nil => exact ⟨between, rfl⟩
  | cons c rest ih =>
    obtain ⟨next, read⟩ := feed_encodeChar c between
    obtain ⟨last, all⟩ := ih next
    rw [List.flatMap_cons, List.foldl_append]
    refine ⟨last, ?_⟩
    rw [all, read, List.map_cons, List.reverse_cons, List.append_assoc]
    rfl

end Reader

/-! ## Texts -/

theorem pieces_encode (s : String) : pieces (encode s) = s.toList.map some := by
  obtain ⟨between, read⟩ := Reader.feed_encode (r := .start) s.toList rfl
  rw [pieces, encode, Reader.finish, if_pos between, read]
  show ((s.toList.map some).reverse ++ []).reverse = _
  rw [List.append_nil, List.reverse_reverse]

/-- A text is read back from its bytes. -/
theorem decode?_encode (s : String) : decode? (encode s) = some s := by
  have all : ∀ cs : List Char, (cs.map some).mapM id = some cs := by
    intro cs
    induction cs with
    | nil => rfl
    | cons c rest ih => simp [List.mapM_cons, ih]
  rw [decode?, pieces_encode, all, Option.map_some, String.ofList_toList]

theorem eq_of_byte_eq {n : Nat} {b : UInt8} (same : b = UInt8.ofNat n) (small : n < 256) :
    n = b.toNat := by
  rw [same, toNat_ofNat_of_lt small]

/-- The bytes of a text begin with those of a byte order mark only if the text begins with one. -/
theorem head?_of_mark {cs : List Char}
    (h : [0xEF, 0xBB, 0xBF] <+: cs.flatMap String.utf8EncodeChar) : cs.head? = some '\uFEFF' := by
  cases cs with
  | nil => simp at h
  | cons c rest =>
    suffices mark : c.toNat = 0xFEFF by
      rw [List.head?_cons, ← Char.ofNat_toNat c, mark]
    rw [List.flatMap_cons, encodeChar_eq] at h
    -- only characters of three bytes begin with 0xEF
    split at h
    · obtain ⟨first, _⟩ := List.cons_prefix_cons.1 h
      have : _ = 0xEF := eq_of_byte_eq first (by omega)
      omega
    · split at h
      · obtain ⟨first, _⟩ := List.cons_prefix_cons.1 h
        have : _ = 0xEF := eq_of_byte_eq first (by omega)
        omega
      · split at h
        · obtain ⟨first, h⟩ := List.cons_prefix_cons.1 h
          obtain ⟨second, h⟩ := List.cons_prefix_cons.1 h
          obtain ⟨third, _⟩ := List.cons_prefix_cons.1 h
          have : _ = 0xEF := eq_of_byte_eq first (by omega)
          have : _ = 0xBB := eq_of_byte_eq second (by omega)
          have : _ = 0xBF := eq_of_byte_eq third (by omega)
          omega
        · obtain ⟨first, _⟩ := List.cons_prefix_cons.1 h
          have : _ = 0xEF := eq_of_byte_eq first (by omega)
          omega

end Gazetteer.Text.Utf8
