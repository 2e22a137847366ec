/-!
# Tables

A table holds rows in increasing order of their ids and remembers the largest id it ever gave out,
so no id is used twice, not even after its row is gone.

* `Keyed`: rows that carry an id.
* `Table`: the rows, their order and the ids given out.
* `insert`, `get?`, `modify`, `keep`: the operations.
* what `get?` finds after each of them, and what a selection has.
-/

set_option autoImplicit false

namespace Gazetteer

/-- Rows that carry an id. -/
class Keyed (α : Type) where
  key : α → Int
  withKey : Int → α → α
  key_withKey (i : Int) (a : α) : key (withKey i a) = i

export Keyed (key withKey key_withKey)

attribute [simp] key_withKey

/-- Rows in increasing order of their ids, none past the last id given out. -/
structure Table (α : Type) [Keyed α] where
  rows : List α
  last : Int
  increasing : rows.Pairwise fun a b => key a < key b
  bounded : ∀ r ∈ rows, key r ≤ last

namespace Table

variable {α : Type} [Keyed α]

def empty : Table α := ⟨[], 0, .nil, by simp⟩

/-- The id of the next row. -/
def next (t : Table α) : Int := t.last + 1

/-- Adds a row under the next id. -/
def insert (t : Table α) (a : α) : Table α where
  rows := t.rows ++ [withKey t.next a]
  last := t.next
  increasing := by
    rw [List.pairwise_append]
    refine ⟨t.increasing, by simp, ?_⟩
    intro r hr x hx
    rw [List.mem_singleton] at hx
    have := t.bounded r hr
    rw [hx, key_withKey, next]
    omega
  bounded := by
    intro r hr
    rw [List.mem_append, List.mem_singleton] at hr
    rcases hr with hr | rfl
    · have := t.bounded r hr
      rw [next]
      omega
    · simp

/-- The row of an id. -/
def get? (t : Table α) (i : Int) : Option α := t.rows.find? fun r => key r = i

/-- The change of one row; its id stays. -/
def changed (i : Int) (f : α → α) (r : α) : α := if key r = i then withKey i (f r) else r

theorem key_changed (i : Int) (f : α → α) (r : α) : key (changed i f r) = key r := by
  rw [changed]
  split
  · next h => rw [key_withKey, h]
  · rfl

/-- Changes the row of an id, if there is one. -/
def modify (t : Table α) (i : Int) (f : α → α) : Table α where
  rows := t.rows.map (changed i f)
  last := t.last
  increasing := by
    rw [List.pairwise_map]
    exact t.increasing.imp (by simp [key_changed])
  bounded := by
    intro r hr
    obtain ⟨x, hx, rfl⟩ := List.mem_map.1 hr
    rw [key_changed]
    exact t.bounded x hx

/-- Keeps the rows that satisfy a condition. -/
def keep (t : Table α) (p : α → Bool) : Table α where
  rows := t.rows.filter p
  last := t.last
  increasing := t.increasing.filter p
  bounded := fun r hr => t.bounded r (List.mem_filter.1 hr).1

/-- Removes the row of an id. -/
def erase (t : Table α) (i : Int) : Table α := t.keep fun r => key r ≠ i

/-! ## What is found afterwards -/

theorem get?_of_mem {t : Table α} {r : α} (h : r ∈ t.rows) : t.get? (key r) = some r := by
  have distinct := t.increasing
  rw [get?]
  generalize t.rows = rows at h distinct
  induction rows with
  | nil => cases h
  | cons x rest ih =>
    rw [List.pairwise_cons] at distinct
    rw [List.find?_cons]
    rcases List.mem_cons.1 h with rfl | hr
    · simp
    · have hne : key x ≠ key r := Int.ne_of_lt (distinct.1 r hr)
      simp [hne, ih hr distinct.2]

theorem key_of_get? {t : Table α} {i : Int} {r : α} (h : t.get? i = some r) : key r = i := by
  simpa using List.find?_some h

theorem mem_of_get? {t : Table α} {i : Int} {r : α} (h : t.get? i = some r) : r ∈ t.rows :=
  List.mem_of_find?_eq_some h

theorem get?_eq_none_of_last_lt {t : Table α} {i : Int} (h : t.last < i) : t.get? i = none := by
  rw [get?, List.find?_eq_none]
  intro r hr
  have := t.bounded r hr
  simp only [decide_eq_true_eq]
  omega

theorem get?_insert (t : Table α) (a : α) (i : Int) :
    (t.insert a).get? i = if i = t.next then some (withKey i a) else t.get? i := by
  rw [get?, insert, List.find?_append]
  split
  · next h =>
    have hn : t.get? i = none := get?_eq_none_of_last_lt (by rw [h, next]; omega)
    rw [get?] at hn
    rw [hn, List.find?_singleton, key_withKey, h]
    simp
  · next h =>
    have hne : ¬t.next = i := fun he => h he.symm
    rw [List.find?_singleton, key_withKey, get?]
    simp [hne]

theorem get?_insert_self (t : Table α) (a : α) :
    (t.insert a).get? t.next = some (withKey t.next a) := by
  rw [get?_insert, if_pos rfl]

theorem get?_modify (t : Table α) (i j : Int) (f : α → α) :
    (t.modify i f).get? j = (t.get? j).map (changed i f) := by
  rw [get?, modify, List.find?_map, get?]
  congr 2
  funext r
  simp [key_changed]

theorem get?_erase (t : Table α) (i j : Int) :
    (t.erase i).get? j = if j = i then none else t.get? j := by
  rw [get?, erase, keep, List.find?_filter, get?]
  split
  · next h =>
    rw [List.find?_eq_none]
    intro r _
    simp [h]
  · next h =>
    congr 1
    funext r
    by_cases hr : key r = j
    · simp [hr, h]
    · simp [hr]

/-! ## What is selected afterwards -/

theorem filter_insert (t : Table α) (a : α) {p : α → Bool} (h : p (withKey t.next a) = false) :
    (t.insert a).rows.filter p = t.rows.filter p := by
  rw [insert, List.filter_append, List.filter_cons, h]
  simp

/-- A change of one row is not seen by a selection that has the row neither before nor after. -/
theorem filter_modify (t : Table α) (i : Int) (f : α → α) {p : α → Bool}
    (h : ∀ r, t.get? i = some r → p r = false ∧ p (withKey i (f r)) = false) :
    (t.modify i f).rows.filter p = t.rows.filter p := by
  have out : ∀ r ∈ t.rows, key r = i → p r = false ∧ p (withKey i (f r)) = false := by
    rintro r hr rfl
    exact h r (get?_of_mem hr)
  show (t.rows.map (changed i f)).filter p = t.rows.filter p
  generalize t.rows = rows at out
  induction rows with
  | nil => rfl
  | cons r rest ih =>
    rw [List.map_cons, List.filter_cons, List.filter_cons,
      ih fun x hx => out x (List.mem_cons_of_mem _ hx), changed]
    split
    · next hk =>
      obtain ⟨before, after⟩ := out r List.mem_cons_self hk
      rw [before, after, if_neg Bool.false_ne_true, if_neg Bool.false_ne_true]
    · rfl

theorem filter_erase (t : Table α) (i : Int) {p : α → Bool}
    (h : ∀ r, t.get? i = some r → p r = false) :
    (t.erase i).rows.filter p = t.rows.filter p := by
  rw [erase, keep, List.filter_filter]
  refine List.filter_congr ?_
  intro r hr
  by_cases hk : key r = i
  · simp [h r (hk ▸ get?_of_mem hr)]
  · simp [hk]

end Table

end Gazetteer
