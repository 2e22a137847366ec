import Gazetteer.Csv.Reader
import Gazetteer.Csv.Writer
import Gazetteer.Proofs.Encoding

/-!
# Written records read back

A cell is written as it is, or between quotes if it holds a quote, a comma or a line end. Either way
the reader that is fed its bytes has read the cell, and what is written behind it, a comma or a line
end, closes it. So the records that are written are read back.

* `Reader.Stands`: where the reader stands and what it has read.
* `feed_comma`, `feed_newline`, `feed_ordinary`: what single bytes do.
* `read_quoteCell`, `read_writeCell`: what the bytes of a cell do.
* `read_writeRecord`: what the bytes of a record do.
* `records_write`: records come back.
-/

set_option autoImplicit false

namespace Gazetteer.Csv

open Text.Utf8 (encode mem_encodeChar decode?_encode)

/-- The bytes of some characters. -/
def bytesOf (cs : List Char) : List UInt8 := cs.flatMap String.utf8EncodeChar

theorem bytesOf_append (cs cs' : List Char) : bytesOf (cs ++ cs') = bytesOf cs ++ bytesOf cs' :=
  List.flatMap_append

theorem bytesOf_cons (c : Char) (cs : List Char) :
    bytesOf (c :: cs) = String.utf8EncodeChar c ++ bytesOf cs := rfl

/-- The byte neither ends a cell nor quotes one. -/
structure Ordinary (b : UInt8) : Prop where
  quote : b ≠ 0x22
  comma : b ≠ 0x2C
  lineEnd : Reader.isLineEnd b = false

theorem eq_of_byte {c c' : Char} {b : UInt8} (h : b ∈ String.utf8EncodeChar c)
    (same : b.toNat = c'.toNat) (small : c'.toNat < 0x80) : c = c' := by
  have here : b.toNat = c.toNat := (mem_encodeChar h).resolve_right (by omega)
  rw [← Char.ofNat_toNat c, ← here, same, Char.ofNat_toNat]

theorem ordinary_of_mem {c : Char} {b : UInt8} (plain : needsQuotes c = false)
    (h : b ∈ String.utf8EncodeChar c) : Ordinary b := by
  have other : ∀ c' : Char, needsQuotes c' = true → c'.toNat < 0x80 → b.toNat ≠ c'.toNat := by
    intro c' quoted small same
    rw [eq_of_byte h same small, quoted] at plain
    cases plain
  refine ⟨?_, ?_, ?_⟩
  · rintro rfl
    exact other '"' rfl (by decide) rfl
  · rintro rfl
    exact other ',' rfl (by decide) rfl
  · by_contra ends
    simp only [Reader.isLineEnd, Bool.not_eq_false, Bool.or_eq_true, beq_iff_eq] at ends
    obtain rfl | rfl := ends
    · exact other '\n' rfl (by decide) rfl
    · exact other '\r' rfl (by decide) rfl

namespace Reader

/-- Where the reader stands and what it has read, the positions aside. -/
structure Stands (r : Reader) (place : Place) (cell : List UInt8) (cells : List (List UInt8))
    (done : List (List (List UInt8))) : Prop where
  place : r.place = place
  cell : r.cell = cell
  cells : r.cells = cells
  done : r.done.map RawRecord.cells = done

variable {r : Reader} {place : Place} {cell : List UInt8} {cells : List (List UInt8)}
  {done : List (List (List UInt8))}

/-! ## Single bytes -/

/-- Outside quotes a comma ends the cell. -/
theorem feed_comma (h : r.Stands place cell cells done) (outside : place ≠ .quoted) :
    (r.feed 0x2C).Stands .cell [] (cell.reverse :: cells) done := by
  obtain ⟨here, rfl, rfl, rfl⟩ := h
  subst here
  cases at_ : r.place with
  | quoted => exact absurd at_ outside
  | _ =>
    simp only [feed, accept, at_]
    exact ⟨rfl, rfl, rfl, rfl⟩

/-- Outside quotes and behind something a line end ends the record. -/
theorem feed_newline (h : r.Stands place cell cells done) (outside : place ≠ .quoted)
    (begun : place ≠ .line) :
    (r.feed 0x0A).Stands .line [] [] ((cell.reverse :: cells).reverse :: done) := by
  obtain ⟨here, rfl, rfl, rfl⟩ := h
  subst here
  cases at_ : r.place with
  | quoted => exact absurd at_ outside
  | line => exact absurd at_ begun
  | _ =>
    simp only [feed, accept, at_]
    exact ⟨rfl, rfl, rfl, rfl⟩

/-- Outside quotes other bytes belong to an unquoted cell. -/
theorem feed_ordinary {b : UInt8} (h : r.Stands place cell cells done) (ordinary : Ordinary b)
    (unquoted : place ≠ .quoted ∧ place ≠ .quote) :
    (r.feed b).Stands .plain (b :: cell) cells done := by
  obtain ⟨here, rfl, rfl, rfl⟩ := h
  obtain ⟨quote, comma, lineEnd⟩ := ordinary
  subst here
  cases at_ : r.place with
  | quoted => exact absurd at_ unquoted.1
  | quote => exact absurd at_ unquoted.2
  | _ =>
    simp only [feed, accept, at_, beginCell, goOn, lineEnd, quote, comma, if_false,
      Bool.false_eq_true]
    exact ⟨rfl, rfl, rfl, rfl⟩

/-! ## Cells -/

theorem read_ordinary {bs : List UInt8} (h : r.Stands place cell cells done)
    (ordinary : ∀ b ∈ bs, Ordinary b) (unquoted : place ≠ .quoted ∧ place ≠ .quote) :
    (bs.foldl feed r).Stands (if bs = [] then place else .plain) (bs.reverse ++ cell) cells
      done := by
  induction bs generalizing r place cell with
  | nil => exact h
  | cons b rest ih =>
    have first := feed_ordinary h (ordinary b List.mem_cons_self) unquoted
    have others := ih first (fun x hx => ordinary x (List.mem_cons_of_mem _ hx)) (by decide)
    rw [List.foldl_cons, if_neg (List.cons_ne_nil _ _), List.reverse_cons, List.append_assoc]
    rwa [ite_self] at others

/-- A quote in front of a cell opens it. -/
theorem feed_opening (h : r.Stands place cell cells done)
    (start : place = .line ∨ place = .cell) : (r.feed 0x22).Stands .quoted cell cells done := by
  obtain ⟨here, rfl, rfl, rfl⟩ := h
  subst here
  obtain at_ | at_ := start
  all_goals
    simp only [feed, accept, at_]
    exact ⟨rfl, rfl, rfl, rfl⟩

/-- Inside quotes a quote is the first of two, or closes the cell. -/
theorem feed_quote (h : r.Stands .quoted cell cells done) :
    (r.feed 0x22).Stands .quote cell cells done := by
  obtain ⟨here, rfl, rfl, rfl⟩ := h
  simp only [feed, accept, here]
  exact ⟨rfl, rfl, rfl, rfl⟩

theorem feed_second_quote (h : r.Stands .quote cell cells done) :
    (r.feed 0x22).Stands .quoted (0x22 :: cell) cells done := by
  obtain ⟨here, rfl, rfl, rfl⟩ := h
  simp only [feed, accept, here]
  exact ⟨rfl, rfl, rfl, rfl⟩

theorem read_quoted {bs : List UInt8} (h : r.Stands .quoted cell cells done)
    (other : ∀ b ∈ bs, b ≠ 0x22) :
    (bs.foldl feed r).Stands .quoted (bs.reverse ++ cell) cells done := by
  induction bs generalizing r cell with
  | nil => exact h
  | cons b rest ih =>
    have first : (r.feed b).Stands .quoted (b :: cell) cells done := by
      obtain ⟨here, rfl, rfl, rfl⟩ := h
      simp only [feed, accept, here, other b List.mem_cons_self, if_false]
      exact ⟨rfl, rfl, rfl, rfl⟩
    rw [List.foldl_cons, List.reverse_cons, List.append_assoc]
    exact ih first fun x hx => other x (List.mem_cons_of_mem _ hx)

/-- What stands between quotes is read without the doubling of its quotes. -/
theorem read_doubled (cs : List Char) (h : r.Stands .quoted cell cells done) :
    ((bytesOf (cs.flatMap fun c => if c = '"' then ['"', '"'] else [c])).foldl feed r).Stands
      .quoted ((bytesOf cs).reverse ++ cell) cells done := by
  induction cs generalizing r cell with
  | nil => exact h
  | cons c rest ih =>
    rw [List.flatMap_cons, bytesOf_append, List.foldl_append, bytesOf_cons, List.reverse_append,
      List.append_assoc]
    refine ih ?_
    split
    · next quote =>
      subst quote
      exact feed_second_quote (feed_quote h)
    · next plain =>
      have one : bytesOf [c] = String.utf8EncodeChar c := List.append_nil _
      rw [one]
      refine read_quoted h ?_
      rintro b hb rfl
      exact plain (eq_of_byte hb rfl (by decide))

/-- A cell between quotes is read up to its closing quote. -/
theorem read_quoteCell (cs : List Char) (h : r.Stands place [] cells done)
    (start : place = .line ∨ place = .cell) :
    ((bytesOf (quoteCell cs)).foldl feed r).Stands .quote (bytesOf cs).reverse cells done := by
  have inside := read_doubled cs (feed_opening h start)
  have closing : bytesOf ['"'] = [0x22] := by decide
  have opening : String.utf8EncodeChar '"' = [0x22] := by decide
  rw [List.append_nil] at inside
  rw [quoteCell, bytesOf_cons, bytesOf_append, opening, closing, List.foldl_append,
    List.foldl_append]
  exact feed_quote inside

/-- A cell is read, and the reader stands where a comma ends the cell, and where a line end ends the
record unless nothing was read in front of one. -/
theorem read_writeCell (cs : List Char) (h : r.Stands place [] cells done)
    (start : place = .line ∨ place = .cell) :
    ∃ next, ((bytesOf (writeCell cs)).foldl feed r).Stands next (bytesOf cs).reverse cells done ∧
      next ≠ .quoted ∧ (next = .line → place = .line ∧ cs = []) := by
  rw [writeCell]
  split
  · exact ⟨.quote, read_quoteCell cs h start, by decide, fun h => nomatch h⟩
  · next plain =>
    have ordinary : ∀ b ∈ bytesOf cs, Ordinary b := by
      intro b hb
      obtain ⟨c, hc, hb⟩ := List.mem_flatMap.1 hb
      exact ordinary_of_mem (by simpa using fun q => plain (List.any_eq_true.2 ⟨c, hc, q⟩)) hb
    have unquoted : place ≠ .quoted ∧ place ≠ .quote := by
      obtain rfl | rfl := start <;> decide
    have read := read_ordinary h ordinary unquoted
    rw [List.append_nil] at read
    refine ⟨_, read, ?_, ?_⟩
    · split
      · exact unquoted.1
      · decide
    · split
      · next empty =>
        intro line
        refine ⟨line, ?_⟩
        cases cs with
        | nil => rfl
        | cons c rest =>
          exact absurd (List.append_eq_nil_iff.1 empty).1 String.utf8EncodeChar_ne_nil
      · exact fun h => nomatch h

/-! ## Records -/

/-- Cells with commas between them and a line end behind them are read as a record. -/
theorem read_writeCells (first : List Char) (rest : List (List Char))
    (h : r.Stands place [] cells done) (start : place = .line ∨ place = .cell)
    (shown : place = .line → first ≠ [] ∨ rest ≠ []) :
    ((bytesOf (writeCells (first :: rest) ++ ['\n'])).foldl feed r).Stands .line [] []
      ((cells.reverse ++ (first :: rest).map bytesOf) :: done) := by
  have comma : String.utf8EncodeChar ',' = [0x2C] := by decide
  have newline : bytesOf ['\n'] = [0x0A] := by decide
  obtain ⟨next, read, outside, blank⟩ := read_writeCell first h start
  induction rest generalizing first r place cells next with
  | nil =>
    have begun : next ≠ .line := by
      intro line
      obtain ⟨line, empty⟩ := blank line
      simpa [empty] using shown line
    have last := feed_newline read outside begun
    rw [List.reverse_reverse, List.reverse_cons] at last
    rw [writeCells, bytesOf_append, newline, List.foldl_append]
    exact last
  | cons second rest ih =>
    have here := feed_comma read outside
    rw [List.reverse_reverse] at here
    obtain ⟨next', read', outside', blank'⟩ := read_writeCell second here (.inr rfl)
    have others := ih second here (.inr rfl) (fun h => nomatch h) next' read' outside' blank'
    rw [writeCells, List.append_assoc, bytesOf_append, List.foldl_append, List.cons_append,
      bytesOf_cons, comma, List.foldl_append]
    simpa using others

theorem read_writeRecord {cells : List String} (some : cells ≠ [])
    (h : r.Stands .line [] [] done) :
    ((bytesOf (writeRecord cells)).foldl feed r).Stands .line [] []
      (cells.map encode :: done) := by
  rw [writeRecord]
  split
  · next alone =>
    -- an empty cell alone in its record is written between quotes, so that the line shows
    subst alone
    have newline : bytesOf ['\n'] = [0x0A] := by decide
    have quoted := read_quoteCell [] h (.inl rfl)
    rw [bytesOf_append, newline, List.foldl_append]
    exact feed_newline quoted (by decide) (by decide)
  · next alone =>
    obtain ⟨cell, rest, rfl⟩ := List.exists_cons_of_ne_nil some
    have read := read_writeCells cell.toList (rest.map String.toList) h (.inl rfl) (by
      rintro -
      by_contra none
      push Not at none
      refine alone ?_
      rw [List.map_eq_nil_iff.1 none.2, String.toList_eq_nil_iff.1 none.1])
    rw [← List.map_cons, List.map_map] at read
    exact read

theorem read_writeRecords {records : List (List String)} (some : ∀ record ∈ records, record ≠ [])
    (h : r.Stands .line [] [] done) :
    ((bytesOf (records.flatMap writeRecord)).foldl feed r).Stands .line [] []
      ((records.map (List.map encode)).reverse ++ done) := by
  induction records generalizing r done with
  | nil => exact h
  | cons record rest ih =>
    have first := read_writeRecord (some record List.mem_cons_self) h
    have others := ih (fun x hx => some x (List.mem_cons_of_mem _ hx)) first
    rw [List.flatMap_cons, bytesOf_append, List.foldl_append, List.map_cons, List.reverse_cons,
      List.append_assoc]
    exact others

end Reader

/-! ## Files -/

theorem bytesOf_write (records : List (List String)) :
    encode (write records) = bytesOf (records.flatMap writeRecord) := by
  rw [encode, write, String.toList_ofList]
  rfl

theorem rawRecords_write {records : List (List String)} (some : ∀ record ∈ records, record ≠ [])
    (unmarked : (records.flatMap writeRecord).head? ≠ .some '\uFEFF') :
    (rawRecords (encode (write records))).map RawRecord.cells =
      records.map (List.map encode) := by
  have bare : ¬mark.isPrefixOf (bytesOf (records.flatMap writeRecord)) = true := by
    intro marked
    exact unmarked (Text.Utf8.head?_of_mark (List.isPrefixOf_iff_prefix.1 marked))
  have start : Reader.start.Stands .line [] [] [] := ⟨rfl, rfl, rfl, rfl⟩
  have read := Reader.read_writeRecords some start
  rw [bytesOf_write, rawRecords, if_neg bare, Reader.finish, if_pos read.place, List.map_reverse,
    read.done, List.append_nil, List.reverse_reverse]

theorem decodeCells_encode (record : Nat) (began : Position) (n : Nat) (cells : List String) :
    decodeCells record began n (cells.map encode) = .ok cells := by
  induction cells generalizing n with
  | nil => rfl
  | cons cell rest ih =>
    rw [List.map_cons, decodeCells, decode?_encode, ih]
    rfl

theorem decodeRecords_encode {raws : List RawRecord} {records : List (List String)}
    (read : raws.map RawRecord.cells = records.map (List.map encode)) (n : Nat) :
    decodeRecords n raws = .ok records := by
  induction raws generalizing records n with
  | nil =>
    rw [List.map_eq_nil_iff.1 read.symm]
    rfl
  | cons raw rest ih =>
    obtain _ | ⟨record, more⟩ := records
    · cases read
    · obtain ⟨first, others⟩ := List.cons.inj read
      rw [decodeRecords, first, decodeCells_encode, ih others]
      rfl

theorem head?_writeCell {cs rest : List Char} {x : Char} (other : x ≠ '"')
    (cell : cs.head? ≠ some x) (more : rest.head? ≠ some x) :
    (writeCell cs ++ rest).head? ≠ some x := by
  rw [writeCell]
  split
  · intro begins
    exact other (Option.some.inj begins).symm
  · cases cs with
    | nil => exact more
    | cons c _ => exact cell

/-- A text begins with a character of its own or as its first cell does. -/
theorem head?_write {cell : String} {cells : List String} {records : List (List String)} {x : Char}
    (quote : x ≠ '"') (comma : x ≠ ',') (line : x ≠ '\n')
    (first : cell.toList.head? ≠ some x) :
    (write ((cell :: cells) :: records)).toList.head? ≠ some x := by
  rw [write, String.toList_ofList, List.flatMap_cons, writeRecord]
  split
  · intro begins
    exact quote (Option.some.inj begins).symm
  · cases cells with
    | nil =>
      rw [List.map_cons, List.map_nil, writeCells, List.append_assoc]
      exact head?_writeCell quote first fun begins => line (Option.some.inj begins).symm
    | cons next rest =>
      rw [List.map_cons, List.map_cons, writeCells, List.append_assoc, List.append_assoc]
      exact head?_writeCell quote first fun begins => comma (Option.some.inj begins).symm

/-- Records that all have a cell are read as they were written, unless the text begins with a byte
order mark. -/
theorem records_write {rs : List (List String)} (some : ∀ record ∈ rs, record ≠ [])
    (unmarked : (write rs).toList.head? ≠ .some '\uFEFF') :
    records (encode (write rs)) = .ok rs := by
  rw [write, String.toList_ofList] at unmarked
  exact decodeRecords_encode (rawRecords_write some unmarked) 0

end Gazetteer.Csv
