/-!
# UTF-8

Reading characters off bytes that may not be UTF-8. A broken sequence is passed over up to the
first byte that could not continue it, and that byte is read afresh.

* `pieces`: the characters of the bytes, `none` for each broken sequence.
* `decode?`, `lossy`: a text, refusing broken sequences or writing U+FFFD for them.
* `validLength`: how many bytes stand in front of the first broken sequence.
-/

set_option autoImplicit false

namespace Gazetteer.Text.Utf8

/-- How far into a sequence the reader is: the bytes still missing, the bits read so far, and the
range of the next byte. -/
structure Reader where
  missing : Nat
  bits : Nat
  low : UInt8
  high : UInt8
  /-- What has been read, last piece first. -/
  read : List (Option Char)

namespace Reader

def start : Reader := ⟨0, 0, 0x80, 0xBF, []⟩

/-- A byte that begins a sequence. The second byte of some sequences has a narrower range, which
keeps out overlong forms, surrogates and code points past U+10FFFF. -/
def lead (r : Reader) (b : UInt8) : Reader :=
  let n := b.toNat
  if n < 0x80 then { r with missing := 0, read := some (Char.ofNat n) :: r.read }
  else if 0xC2 ≤ n ∧ n ≤ 0xDF then ⟨1, n - 0xC0, 0x80, 0xBF, r.read⟩
  else if n = 0xE0 then ⟨2, 0, 0xA0, 0xBF, r.read⟩
  else if n = 0xED then ⟨2, 0xD, 0x80, 0x9F, r.read⟩
  else if 0xE1 ≤ n ∧ n ≤ 0xEF then ⟨2, n - 0xE0, 0x80, 0xBF, r.read⟩
  else if n = 0xF0 then ⟨3, 0, 0x90, 0xBF, r.read⟩
  else if 0xF1 ≤ n ∧ n ≤ 0xF3 then ⟨3, n - 0xF0, 0x80, 0xBF, r.read⟩
  else if n = 0xF4 then ⟨3, 4, 0x80, 0x8F, r.read⟩
  else { r with missing := 0, read := none :: r.read }

/-- One more byte. -/
def feed (r : Reader) (b : UInt8) : Reader :=
  if r.missing = 0 then r.lead b
  else if r.low ≤ b ∧ b ≤ r.high then
    let bits := r.bits * 64 + (b.toNat - 0x80)
    if r.missing = 1 then ⟨0, 0, 0x80, 0xBF, some (Char.ofNat bits) :: r.read⟩
    else ⟨r.missing - 1, bits, 0x80, 0xBF, r.read⟩
  else { r with missing := 0, read := none :: r.read }.lead b

/-- Bytes that end inside a sequence leave it broken. -/
def finish (r : Reader) : List (Option Char) :=
  (if r.missing = 0 then r.read else none :: r.read).reverse

end Reader

/-- The characters of the bytes, with `none` for each broken sequence. -/
def pieces (bytes : List UInt8) : List (Option Char) :=
  (bytes.foldl Reader.feed Reader.start).finish

/-- The text that the bytes spell, if they are UTF-8 throughout. -/
def decode? (bytes : List UInt8) : Option String :=
  ((pieces bytes).mapM id).map String.ofList

/-- The text that the bytes spell, with U+FFFD for each broken sequence. -/
def lossy (bytes : List UInt8) : String :=
  String.ofList ((pieces bytes).map (·.getD '\uFFFD'))

/-- The number of bytes in front of the first broken sequence. -/
def validLength (bytes : List UInt8) : Nat :=
  ((pieces bytes).takeWhile Option.isSome).foldr (fun p size => p.elim 0 Char.utf8Size + size) 0

/-- The bytes of a text. -/
def encode (s : String) : List UInt8 := s.toList.flatMap String.utf8EncodeChar

end Gazetteer.Text.Utf8
