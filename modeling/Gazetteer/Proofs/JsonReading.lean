import Gazetteer.Proofs.Spelling

/-!
# What is written as JSON reads back

A value is written as one line of text and read back through its shape. The shape of every text that
is written is known, and from it the value comes back where its numbers do: texts always, whole
numbers as long as they fit a word.

* `Shaped`: the shape of the text of a value.
* `reads`, `read_render`: a written value reads as its shape, and the text is whole.
* `Legible`, `legible_int`: a number whose written form has the value it was written from.
* `Fits`: a value that reads back where lists and objects may be nested so deep.
* `value_of_shaped`, `ofText_object`: values and objects come back.
* `GeoPoint.metadataObject_render`: so do the metadata of a point.
-/

set_option autoImplicit false

namespace Gazetteer.Json

open Source (readText readLiteral readValue readItems readMembers)

/-! ## Shapes -/

mutual

/-- The text of the value has the shape. A float that is not finite has the text of `null`. -/
def Shaped : Json → Source → Prop
  | .null, s => s = .null
  | .bool b, s => s = .bool b
  | .int n, s => s = .number (.written (intLiteral n))
  | .float x, s =>
    if Decimal.isFinite x then ∃ l, SpelledAs (.float x) l ∧ s = .number (.written l) else s = .null
  | .text t, s => s = .text (some t)
  | .list items, s => ∃ ss, s = .list ss true ∧ AllShaped items ss
  | .object members, s => ∃ ss, s = .object ss true ∧ MembersShaped members ss

def AllShaped : List Json → List Source → Prop
  | [], ss => ss = []
  | x :: rest, ss => ∃ s more, ss = s :: more ∧ Shaped x s ∧ AllShaped rest more

def MembersShaped : List (String × Json) → List (Option String × Source) → Prop
  | [], ss => ss = []
  | (k, v) :: rest, ss => ∃ s more, ss = (some k, s) :: more ∧ Shaped v s ∧ MembersShaped rest more

end

mutual

/-- The text of a value does not break off. -/
theorem isWhole_of_shaped : ∀ {j : Json} {s : Source}, Shaped j s → s.isWhole = true
  | .null, _, rfl => rfl
  | .bool _, _, rfl => rfl
  | .int _, _, rfl => rfl
  | .float x, _, shaped => by
    rw [Shaped] at shaped
    split at shaped
    · obtain ⟨l, _, rfl⟩ := shaped
      rfl
    · rw [shaped]
      rfl
  | .text _, _, rfl => rfl
  | .list _, _, ⟨_, rfl, shaped⟩ => by
    rw [Source.isWhole, allWhole_of_shaped shaped]
    rfl
  | .object _, _, ⟨_, rfl, shaped⟩ => by
    rw [Source.isWhole, allMembersWhole_of_shaped shaped]
    rfl

theorem allWhole_of_shaped : ∀ {items : List Json} {ss : List Source}, AllShaped items ss →
    Source.allWhole ss = true
  | [], _, rfl => rfl
  | _ :: _, _, ⟨_, _, rfl, first, others⟩ => by
    rw [Source.allWhole, isWhole_of_shaped first, allWhole_of_shaped others]
    rfl

theorem allMembersWhole_of_shaped : ∀ {members : List (String × Json)}
    {ss : List (Option String × Source)}, MembersShaped members ss →
      Source.allMembersWhole ss = true
  | [], _, rfl => rfl
  | (_, _) :: _, _, ⟨_, _, rfl, first, others⟩ => by
    rw [Source.allMembersWhole, isWhole_of_shaped first, allMembersWhole_of_shaped others]
    rfl

end

/-! ## Where a value begins -/

/-- A character that is neither blank nor the end of a list. -/
def Opens (c : Char) : Prop := Source.isSpace c = false ∧ c ≠ ']'

theorem opens_number {c : Char} (h : c = '-' ∨ c.isDigit = true) : Opens c := by
  constructor
  · by_contra space
    simp only [Source.isSpace, Bool.not_eq_false, Bool.or_eq_true, beq_iff_eq] at space
    obtain ((rfl | rfl) | rfl) | rfl := space <;> simp at h
  · rintro rfl
    simp at h

theorem SpelledAs.opens {j : Json} {l : Literal} (h : SpelledAs j l) :
    ∃ c cs, print j = c :: cs ∧ Opens c := by
  obtain ⟨c, cs, written, first⟩ := h.head
  exact ⟨c, cs, written, opens_number first⟩

theorem print_opens (j : Json) : ∃ c cs, print j = c :: cs ∧ Opens c := by
  cases j with
  | null => exact ⟨'n', ['u', 'l', 'l'], rfl, by decide, by decide⟩
  | bool b =>
    cases b with
    | true => exact ⟨'t', ['r', 'u', 'e'], rfl, by decide, by decide⟩
    | false => exact ⟨'f', ['a', 'l', 's', 'e'], rfl, by decide, by decide⟩
  | int n => exact (spelledAs_int n).opens
  | float x =>
    by_cases finite : Decimal.isFinite x = true
    · obtain ⟨l, spelled⟩ := spelledAs_float finite
      exact spelled.opens
    · refine ⟨'n', ['u', 'l', 'l'], ?_, by decide, by decide⟩
      rw [print, printFloat, if_neg finite]
      rfl
  | text s => exact ⟨'"', _, rfl, by decide, by decide⟩
  | list items => exact ⟨'[', _, rfl, by decide, by decide⟩
  | object members => exact ⟨'{', _, rfl, by decide, by decide⟩

theorem printItems_opens (x : Json) (items : List Json) :
    ∃ c cs, printItems (x :: items) = c :: cs ∧ Opens c := by
  obtain ⟨c, cs, written, opens⟩ := print_opens x
  cases items with
  | nil => exact ⟨c, cs, by rw [printItems, written], opens⟩
  | cons y more => exact ⟨c, _, by rw [printItems, written, List.cons_append], opens⟩

theorem printMembers_head (k : String) (v : Json) (more : List (String × Json)) :
    ∃ cs, printMembers ((k, v) :: more) = '"' :: cs := by
  cases more <;> exact ⟨_, rfl⟩

/-! ## One step of reading -/

theorem skipSpace_of_opens {c : Char} (h : Opens c) (cs : List Char) :
    Source.skipSpace (c :: cs) = c :: cs := by
  simp [Source.skipSpace, h.1]

theorem readValue_number {c : Char} {cs rest : List Char} {l : Literal} (fuel : Nat)
    (first : c = '-' ∨ c.isDigit = true) (read : readLiteral (c :: cs) = some (l, rest)) :
    readValue (fuel + 1) (c :: cs) = (.number (.written l), rest) := by
  have n : c ≠ 'n' := by rintro rfl; simp at first
  have t : c ≠ 't' := by rintro rfl; simp at first
  have f : c ≠ 'f' := by rintro rfl; simp at first
  have quote : c ≠ '"' := by rintro rfl; simp at first
  have list : c ≠ '[' := by rintro rfl; simp at first
  have object : c ≠ '{' := by rintro rfl; simp at first
  rw [readValue, skipSpace_of_opens (opens_number first)]
  simp [n, t, f, quote, list, object, read]

theorem readValue_list {c : Char} {cs rest : List Char} {ss : List Source} {fuel : Nat}
    (opens : Opens c) (read : readItems fuel (c :: cs) = (ss, true, rest)) :
    readValue (fuel + 1) ('[' :: c :: cs) = (.list ss true, rest) := by
  have space : Source.skipSpace ('[' :: c :: cs) = '[' :: c :: cs := rfl
  rw [readValue, space]
  simp [skipSpace_of_opens opens, opens.2, read]

theorem readValue_object {cs rest : List Char} {ss : List (Option String × Source)} {fuel : Nat}
    (read : readMembers fuel ('"' :: cs) = (ss, true, rest)) :
    readValue (fuel + 1) ('{' :: '"' :: cs) = (.object ss true, rest) := by
  have space : Source.skipSpace ('{' :: '"' :: cs) = '{' :: '"' :: cs := rfl
  have inside : Source.skipSpace ('"' :: cs) = '"' :: cs := rfl
  rw [readValue, space]
  simp [inside, read]

theorem readItems_last {cs rest : List Char} {s : Source} {fuel : Nat}
    (read : readValue fuel cs = (s, ']' :: rest)) :
    readItems (fuel + 1) cs = ([s], true, rest) := by
  have space : Source.skipSpace (']' :: rest) = ']' :: rest := rfl
  simp [readItems, read, space]

theorem readItems_next {c : Char} {cs more rest : List Char} {s : Source} {ss : List Source}
    {fuel : Nat} (read : readValue fuel cs = (s, ',' :: c :: more)) (opens : Opens c)
    (others : readItems fuel (c :: more) = (ss, true, rest)) :
    readItems (fuel + 1) cs = (s :: ss, true, rest) := by
  have space : Source.skipSpace (',' :: c :: more) = ',' :: c :: more := rfl
  simp [readItems, read, space, skipSpace_of_opens opens, opens.2, others]

theorem readMembers_last {k : String} {cs after rest : List Char} {s : Source} {fuel : Nat}
    (name : readText cs = some (some k, ':' :: after))
    (read : readValue fuel after = (s, '}' :: rest)) :
    readMembers (fuel + 1) ('"' :: cs) = ([(some k, s)], true, rest) := by
  have quote : Source.skipSpace ('"' :: cs) = '"' :: cs := rfl
  have colon : Source.skipSpace (':' :: after) = ':' :: after := rfl
  have close : Source.skipSpace ('}' :: rest) = '}' :: rest := rfl
  simp [readMembers, quote, name, colon, read, close]

theorem readMembers_next {k : String} {cs after more rest : List Char} {s : Source}
    {ss : List (Option String × Source)} {fuel : Nat}
    (name : readText cs = some (some k, ':' :: after))
    (read : readValue fuel after = (s, ',' :: more))
    (others : readMembers fuel more = (ss, true, rest)) :
    readMembers (fuel + 1) ('"' :: cs) = ((some k, s) :: ss, true, rest) := by
  have quote : Source.skipSpace ('"' :: cs) = '"' :: cs := rfl
  have colon : Source.skipSpace (':' :: after) = ':' :: after := rfl
  have comma : Source.skipSpace (',' :: more) = ',' :: more := rfl
  simp [readMembers, quote, name, colon, read, comma, others]

/-! ## Reading as long as the fuel lasts -/

/-- With so much fuel, values, items and members read as their shapes, whatever follows them. -/
structure Reads (fuel : Nat) : Prop where
  value : ∀ j : Json, 2 * (print j).length ≤ fuel → ∀ rest : List Char, Ends rest →
    ∃ s, readValue fuel (print j ++ rest) = (s, rest) ∧ Shaped j s
  items : ∀ (x : Json) (items : List Json), 2 * (printItems (x :: items)).length + 1 ≤ fuel →
    ∀ rest : List Char, ∃ ss,
      readItems fuel (printItems (x :: items) ++ ']' :: rest) = (ss, true, rest) ∧
        AllShaped (x :: items) ss
  members : ∀ (m : String × Json) (members : List (String × Json)),
    2 * (printMembers (m :: members)).length + 1 ≤ fuel → ∀ rest : List Char, ∃ ss,
      readMembers fuel (printMembers (m :: members) ++ '}' :: rest) = (ss, true, rest) ∧
        MembersShaped (m :: members) ss

namespace Reads

variable {fuel : Nat} {rest : List Char}

theorem number_succ {j : Json} {l : Literal} (spelled : SpelledAs j l) (ends : Ends rest) :
    readValue (fuel + 1) (print j ++ rest) = (.number (.written l), rest) := by
  obtain ⟨c, cs, written, first⟩ := spelled.head
  have here := spelled rest ends
  rw [written] at here ⊢
  exact readValue_number fuel first here

theorem value_succ (h : Reads fuel) (j : Json) (enough : 2 * (print j).length ≤ fuel + 1)
    (ends : Ends rest) : ∃ s, readValue (fuel + 1) (print j ++ rest) = (s, rest) ∧ Shaped j s := by
  cases j with
  | null => exact ⟨.null, rfl, rfl⟩
  | bool b => cases b <;> exact ⟨.bool _, rfl, rfl⟩
  | int n => exact ⟨_, number_succ (spelledAs_int n) ends, rfl⟩
  | float x =>
    by_cases finite : Decimal.isFinite x = true
    · obtain ⟨l, spelled⟩ := spelledAs_float finite
      refine ⟨.number (.written l), number_succ spelled ends, ?_⟩
      rw [Shaped, if_pos finite]
      exact ⟨l, spelled, rfl⟩
    · refine ⟨.null, ?_, by rw [Shaped, if_neg finite]⟩
      rw [print, printFloat, if_neg finite]
      rfl
  | text t =>
    obtain ⟨cs, written, read⟩ := readText_quote t rest
    have quote : Source.skipSpace ('"' :: cs) = '"' :: cs := rfl
    refine ⟨.text (some t), ?_, rfl⟩
    rw [print, written, readValue, quote]
    simp [read]
  | list items =>
    cases items with
    | nil => exact ⟨.list [] true, rfl, [], rfl, rfl⟩
    | cons x items =>
      obtain ⟨c, cs, written, opens⟩ := printItems_opens x items
      have length : (print (.list (x :: items))).length = (printItems (x :: items)).length + 2 := by
        simp [print]
      obtain ⟨ss, read, shaped⟩ := h.items x items (by omega) rest
      refine ⟨.list ss true, ?_, ⟨ss, rfl, shaped⟩⟩
      rw [written] at read
      rw [print, written]
      simpa using readValue_list opens read
  | object members =>
    cases members with
    | nil => exact ⟨.object [] true, rfl, [], rfl, rfl⟩
    | cons m members =>
      obtain ⟨cs, written⟩ := printMembers_head m.1 m.2 members
      have length : (print (.object (m :: members))).length =
          (printMembers (m :: members)).length + 2 := by
        simp [print]
      obtain ⟨ss, read, shaped⟩ := h.members m members (by omega) rest
      refine ⟨.object ss true, ?_, ⟨ss, rfl, shaped⟩⟩
      rw [written] at read
      rw [print, written]
      simpa using readValue_object read

theorem items_succ (h : Reads fuel) (x : Json) (items : List Json)
    (enough : 2 * (printItems (x :: items)).length + 1 ≤ fuel + 1) :
    ∃ ss, readItems (fuel + 1) (printItems (x :: items) ++ ']' :: rest) = (ss, true, rest) ∧
      AllShaped (x :: items) ss := by
  cases items with
  | nil =>
    rw [printItems] at enough ⊢
    obtain ⟨s, read, shaped⟩ := h.value x (by omega) (']' :: rest) (.inr (.inl rfl))
    exact ⟨[s], readItems_last read, s, [], rfl, shaped, rfl⟩
  | cons y more =>
    obtain ⟨c, cs, written, opens⟩ := printItems_opens y more
    have length : (printItems (x :: y :: more)).length =
        (print x).length + (printItems (y :: more)).length + 1 := by
      simp [printItems]
      omega
    obtain ⟨s, read, shaped⟩ := h.value x (by omega)
      (',' :: (printItems (y :: more) ++ ']' :: rest)) (.inl rfl)
    obtain ⟨ss, next, others⟩ := h.items y more (by omega) rest
    refine ⟨s :: ss, ?_, ⟨s, ss, rfl, shaped, others⟩⟩
    rw [written] at read next
    rw [printItems, written]
    simpa using readItems_next read opens next

theorem members_succ (h : Reads fuel) (m : String × Json) (members : List (String × Json))
    (enough : 2 * (printMembers (m :: members)).length + 1 ≤ fuel + 1) :
    ∃ ss, readMembers (fuel + 1) (printMembers (m :: members) ++ '}' :: rest) =
        (ss, true, rest) ∧ MembersShaped (m :: members) ss := by
  obtain ⟨k, v⟩ := m
  cases members with
  | nil =>
    have length : (printMembers [(k, v)]).length = (quote k).length + (print v).length + 1 := by
      simp [printMembers]
      omega
    obtain ⟨s, read, shaped⟩ := h.value v (by omega) ('}' :: rest) (.inr (.inr rfl))
    obtain ⟨cs, written, name⟩ := readText_quote k (':' :: (print v ++ '}' :: rest))
    refine ⟨[(some k, s)], ?_, ⟨s, [], rfl, shaped, rfl⟩⟩
    rw [printMembers, List.append_assoc, List.cons_append, written]
    exact readMembers_last name read
  | cons m more =>
    have length : (printMembers ((k, v) :: m :: more)).length =
        (quote k).length + (print v).length + (printMembers (m :: more)).length + 2 := by
      simp [printMembers]
      omega
    have split : printMembers ((k, v) :: m :: more) ++ '}' :: rest =
        quote k ++ ':' :: (print v ++ ',' :: (printMembers (m :: more) ++ '}' :: rest)) := by
      simp [printMembers]
    obtain ⟨s, read, shaped⟩ := h.value v (by omega)
      (',' :: (printMembers (m :: more) ++ '}' :: rest)) (.inl rfl)
    obtain ⟨ss, next, others⟩ := h.members m more (by omega) rest
    obtain ⟨cs, written, name⟩ := readText_quote k
      (':' :: (print v ++ ',' :: (printMembers (m :: more) ++ '}' :: rest)))
    refine ⟨(some k, s) :: ss, ?_, ⟨s, ss, rfl, shaped, others⟩⟩
    rw [split, written]
    exact readMembers_next name read next

end Reads

theorem reads (fuel : Nat) : Reads fuel := by
  induction fuel with
  | zero =>
    refine ⟨?_, fun _ _ enough => absurd enough (by omega),
      fun _ _ enough => absurd enough (by omega)⟩
    intro j enough
    obtain ⟨c, cs, written, _⟩ := print_opens j
    rw [written, List.length_cons] at enough
    omega
  | succ fuel ih =>
    exact ⟨fun j enough _ ends => ih.value_succ j enough ends,
      fun x items enough _ => ih.items_succ x items enough,
      fun m members enough _ => ih.members_succ m members enough⟩

/-- A written value reads as its shape, and nothing is left. -/
theorem read_render (j : Json) : ∃ s, Source.read (render j).toList = (s, []) ∧ Shaped j s := by
  have written : (render j).toList = print j := String.toList_ofList
  obtain ⟨s, read, shaped⟩ := (reads (2 * (print j).length + 2)).value j (by omega) [] trivial
  rw [List.append_nil] at read
  exact ⟨s, by rw [written, Source.read, read], shaped⟩

/-! ## Numbers -/

/-- The written number reads back, whatever follows it. -/
def Legible (j : Json) : Prop :=
  ∃ l : Literal, l.value? = some j ∧
    ∀ rest, Ends rest → readLiteral (print j ++ rest) = some (l, rest)

/-- The literal that a legible number is written as has its value. -/
theorem Legible.value {j : Json} {l : Literal} (h : Legible j) (spelled : SpelledAs j l) :
    l.value? = some j := by
  obtain ⟨l', value, read⟩ := h
  rw [spelled.unique read, value]

/-- A number that reads back is one that was written as a number. -/
theorem Legible.isFinite {x : Float} (h : Legible (.float x)) : Decimal.isFinite x = true := by
  by_contra infinite
  obtain ⟨l, _, read⟩ := h
  have alone := read [] trivial
  rw [print, printFloat, if_neg infinite] at alone
  cases alone

theorem le_ofDigitChars (ds : List Char) (n : Nat) : n ≤ Nat.ofDigitChars 10 ds n := by
  induction ds generalizing n with
  | nil => exact Nat.le_refl n
  | cons d ds ih =>
    have := ih (10 * n + (d.toNat - '0'.toNat))
    rw [Nat.ofDigitChars_cons]
    omega

theorem takeWhole_of_le {ds : List Char} {n : Nat} (e : Int)
    (h : Nat.ofDigitChars 10 ds n ≤ Text.maxWord) :
    Digits.takeWhole ⟨n, e⟩ ds = ⟨Nat.ofDigitChars 10 ds n, e⟩ := by
  induction ds generalizing n with
  | nil => rfl
  | cons d ds ih =>
    rw [Nat.ofDigitChars_cons] at h ⊢
    have here := le_ofDigitChars ds (10 * n + (d.toNat - '0'.toNat))
    have digit : n * 10 + Text.digitValue d = 10 * n + (d.toNat - '0'.toNat) := by
      rw [Text.digitValue]
      omega
    have fits : Digits.fits ⟨n, e⟩ d = true := by
      simp only [Digits.fits, digit, decide_eq_true_eq]
      omega
    rw [Digits.takeWhole, if_pos fits, digit, ih h]

/-- A whole number that fits a signed word reads back. -/
theorem legible_int {n : Int} (low : -2 ^ 63 ≤ n) (high : n < 2 ^ 63) : Legible (.int n) := by
  refine ⟨intLiteral n, ?_, spelledAs_int n⟩
  have word : Text.maxWord = 2 ^ 64 - 1 := by decide
  have size : UInt64.size / 2 = 2 ^ 63 := by decide
  have whole : Digits.takeWhole ⟨0, 0⟩ (Nat.toDigits 10 n.natAbs) = ⟨n.natAbs, 0⟩ := by
    have value : Nat.ofDigitChars 10 (Nat.toDigits 10 n.natAbs) 0 = n.natAbs :=
      Nat.ofDigitChars_ten_toDigits
    rw [takeWhole_of_le 0 (by omega), value]
  by_cases negative : n < 0
  · have small : ¬(n.natAbs = 0 ∨ UInt64.size / 2 < n.natAbs) := by omega
    have same : -(n.natAbs : Int) = n := by omega
    simp only [intLiteral, Literal.value?, whole, if_neg small, same]
    simp [negative]
  · have same : (n.natAbs : Int) = n := by omega
    simp only [intLiteral, Literal.value?, whole, same]
    simp [negative]

/-! ## Values -/

mutual

/-- The value reads back where lists and objects may be nested so deep. -/
def Fits (room : Nat) : Json → Prop
  | .null => True
  | .bool _ => True
  | .int n => Legible (.int n)
  | .float x => Legible (.float x)
  | .text _ => True
  | .list items => 0 < room ∧ AllFit (room - 1) items
  | .object members =>
    0 < room ∧ (members.map Prod.fst).Pairwise (· < ·) ∧ MembersFit (room - 1) members

def AllFit (room : Nat) : List Json → Prop
  | [] => True
  | x :: rest => Fits room x ∧ AllFit room rest

def MembersFit (room : Nat) : List (String × Json) → Prop
  | [] => True
  | (_, v) :: rest => Fits room v ∧ MembersFit room rest

end

/-- A member past all others is the last one. -/
theorem insert_last {k : String} {members : Object} (v : Json) (h : ∀ m ∈ members, m.1 < k) :
    insert k v members = members ++ [(k, v)] := by
  induction members with
  | nil => rfl
  | cons m rest ih =>
    have before : m.1 < k := h m List.mem_cons_self
    have after : ¬k < m.1 := String.lt_asymm before
    have other : k ≠ m.1 := fun same => String.lt_irrefl k (same ▸ before)
    rw [insert, if_neg after, if_neg other, ih fun x hx => h x (List.mem_cons_of_mem _ hx)]
    rfl

mutual

/-- A value that fits comes back from its shape. -/
theorem value_of_shaped : ∀ {room : Nat} {j : Json} {s : Source}, Fits room j → Shaped j s →
    Decoder.value room s = .ok j
  | _, .null, _, _, rfl => by rw [Decoder.value]
  | _, .bool _, _, _, rfl => by rw [Decoder.value]
  | _, .int n, _, legible, rfl => by
    have value := Legible.value legible (spelledAs_int n)
    simp [Decoder.value, Numeral.value?, value]
  | _, .float x, _, legible, shaped => by
    rw [Shaped, if_pos (Legible.isFinite legible)] at shaped
    obtain ⟨l, spelled, rfl⟩ := shaped
    have value := Legible.value legible spelled
    simp [Decoder.value, Numeral.value?, value]
  | _, .text _, _, _, rfl => by rw [Decoder.value]
  | _, .list _, _, ⟨positive, fit⟩, ⟨_, rfl, shaped⟩ => by
    rw [Decoder.value, if_neg (Nat.pos_iff_ne_zero.1 positive), values_of_shaped fit shaped]
    rfl
  | _, .object _, _, ⟨positive, increasing, fit⟩, ⟨_, rfl, shaped⟩ => by
    rw [Decoder.value, if_neg (Nat.pos_iff_ne_zero.1 positive),
      members_of_shaped fit shaped [] increasing]
    rfl

theorem values_of_shaped : ∀ {room : Nat} {items : List Json} {ss : List Source},
    AllFit room items → AllShaped items ss → Decoder.values room true ss = .ok items
  | _, [], _, _, rfl => rfl
  | _, _ :: _, _, ⟨fit, fits⟩, ⟨_, _, rfl, first, others⟩ => by
    rw [Decoder.values, value_of_shaped fit first, values_of_shaped fits others]
    rfl

theorem members_of_shaped : ∀ {room : Nat} {members : List (String × Json)}
    {ss : List (Option String × Source)}, MembersFit room members → MembersShaped members ss →
      ∀ seen : Object, ((seen ++ members).map Prod.fst).Pairwise (· < ·) →
        Decoder.members room true seen ss = .ok (seen ++ members)
  | _, [], _, _, rfl, seen, _ => by
    rw [List.append_nil]
    rfl
  | room, (k, v) :: _, _, ⟨fit, fits⟩, ⟨_, more, rfl, first, others⟩, seen, increasing => by
    -- the members come in increasing order, so each one is put behind those before it
    have last : insert k v seen = seen ++ [(k, v)] := by
      refine insert_last v fun m hm => ?_
      rw [List.map_append, List.pairwise_append] at increasing
      exact increasing.2.2 m.1 (List.mem_map_of_mem hm) k (by simp)
    rw [Decoder.members, value_of_shaped fit first]
    show Decoder.members room true (insert k v seen) more = _
    rw [last, members_of_shaped fits others _ (by simpa using increasing), List.append_assoc]
    rfl

end

/-! ## Objects -/

/-- A written object reads back as the members it had. -/
theorem ofText_object {members : Object} (fit : Fits maxNesting (.object members)) :
    Decoder.ofText Decoder.object (render (.object members)) = .ok members := by
  obtain ⟨_, read, ⟨ss, rfl, shaped⟩⟩ := read_render (.object members)
  have decoded : Decoder.object maxNesting (.object ss true) = .ok members :=
    members_of_shaped fit.2.2 shaped [] fit.2.1
  rw [Decoder.ofText, read]
  simp [decoded, Source.skipSpace]

/-- The text of an object is not blank. -/
theorem isBlankText_render (members : Object) :
    Text.isBlankText (render (.object members)) = false := by
  have brace : Text.isBlank '{' = false := by decide
  simp [Text.isBlankText, render, print, brace]

theorem membersFit_iff {room : Nat} {members : Object} :
    MembersFit room members ↔ ∀ m ∈ members, Fits room m.2 := by
  induction members with
  | nil => simp [MembersFit]
  | cons m rest ih => simp [MembersFit, ih]

theorem mem_insert {key : String} {value : Json} {members : Object} {m : String × Json}
    (h : m ∈ insert key value members) : m = (key, value) ∨ m ∈ members := by
  induction members with
  | nil => exact .inl (List.mem_singleton.1 h)
  | cons x rest ih =>
    rw [insert] at h
    split at h
    · exact List.mem_cons.1 h
    · split at h
      · exact (List.mem_cons.1 h).imp_right (List.mem_cons_of_mem _)
      · obtain rfl | h := List.mem_cons.1 h
        · exact .inr List.mem_cons_self
        · exact (ih h).imp_right (List.mem_cons_of_mem _)

theorem insert_increasing (key : String) (value : Json) {members : Object}
    (h : (members.map Prod.fst).Pairwise (· < ·)) :
    ((insert key value members).map Prod.fst).Pairwise (· < ·) := by
  rw [List.pairwise_map] at h ⊢
  induction members with
  | nil => exact List.pairwise_singleton _ _
  | cons x rest ih =>
    have ⟨first, others⟩ := List.pairwise_cons.1 h
    rw [insert]
    split
    · next before =>
      refine List.pairwise_cons.2 ⟨?_, h⟩
      intro m hm
      obtain rfl | hm := List.mem_cons.1 hm
      · exact before
      · exact String.lt_trans before (first m hm)
    · split
      · next same =>
        exact List.pairwise_cons.2 ⟨fun m hm => same ▸ first m hm, others⟩
      · next after other =>
        refine List.pairwise_cons.2 ⟨?_, ih others⟩
        intro m hm
        obtain rfl | hm := mem_insert hm
        · exact lt_of_le_of_ne (not_lt.1 after) (Ne.symm other)
        · exact first m hm

/-- A member that fits can be added to an object. -/
theorem Fits.insertNew {room : Nat} {key : String} {value : Json} {members : Object}
    (h : Fits (room + 1) (.object members)) (new : Fits room value) :
    Fits (room + 1) (.object (insertNew key value members)) := by
  obtain ⟨positive, increasing, fit⟩ := h
  rw [Json.insertNew]
  split
  · exact ⟨positive, increasing, fit⟩
  · refine ⟨positive, insert_increasing key value increasing, membersFit_iff.2 ?_⟩
    intro m hm
    obtain rfl | hm := mem_insert hm
    · exact new
    · exact membersFit_iff.1 fit m hm

end Gazetteer.Json

/-- Metadata that were written from an object read back as its members. -/
theorem Gazetteer.GeoPoint.metadataObject_render {p : GeoPoint} {members : Json.Object}
    (written : p.metadata = Json.render (.object members))
    (fit : Json.Fits Json.maxNesting (.object members)) : p.metadataObject = .ok members := by
  have shown : Text.isBlankText p.metadata = false := by rw [written, Json.isBlankText_render]
  rw [metadataObject, if_neg (by simp [shown]), written, Json.ofText_object fit]
  rfl
