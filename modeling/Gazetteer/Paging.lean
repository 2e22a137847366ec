/-!
# Pages

A list is asked for page by page: pages are counted from one, and a zero in either number asks for
the whole list.

* `Paging`: the page and its size.
* `Paging.window`: how many rows to pass over and how many to keep.
* `Paging.cut`: the rows of the page.
* `Paging.boundedCut`: the same cut by signed words, where a negative limit is none.
* `Page`: a page with the number of rows there are in all.
-/

set_option autoImplicit false

namespace Gazetteer

/-- The page that is asked for. -/
structure Paging where
  page : Nat
  perPage : Nat
  deriving DecidableEq, Inhabited, Repr

/-- Asks for the whole list. -/
def Paging.all : Paging := ⟨0, 0⟩

namespace Paging

/-- How many rows to pass over and how many to keep, when a page is asked for. Both are unsigned
64-bit words, so a product past the largest one begins again at zero. -/
def window (p : Paging) : Option (Nat × Nat) :=
  if 0 < p.page ∧ 0 < p.perPage then
    some ((p.page - 1) * p.perPage % UInt64.size, p.perPage)
  else none

/-- The rows of the page. -/
def cut {α : Type} (p : Paging) (rows : List α) : List α :=
  match p.window with
  | some (offset, limit) => (rows.drop offset).take limit
  | none => rows

/-! ## Signed words -/

/-- The signed 64-bit word with the bits of an unsigned one. -/
def toSigned (n : Nat) : Int := Int.bmod n UInt64.size

/-- Limit and offset as signed words; a limit of minus one keeps everything. -/
def signedBounds (p : Paging) : Int × Int :=
  match p.window with
  | some (offset, limit) => (toSigned limit, toSigned offset)
  | none => (-1, 0)

/-- Keeps at most `limit` rows; a negative limit keeps all. -/
def keepSigned {α : Type} (limit : Int) (rows : List α) : List α :=
  if limit < 0 then rows else rows.take limit.toNat

/-- The rows between signed bounds; a negative offset passes over none. -/
def boundedCut {α : Type} (p : Paging) (rows : List α) : List α :=
  let (limit, offset) := p.signedBounds
  keepSigned limit (rows.drop offset.toNat)

end Paging

/-- A page of a list. -/
structure Page (α : Type) where
  items : List α
  /-- How many rows the whole list has. -/
  total : Nat

end Gazetteer
