/-!
# JSON values

* `Json`: a value. Whole numbers and floats are kept apart, as the text keeps them apart.
* `Json.Object`: the members of an object, one for each name, in the order of their names.
* `insert`, `get?`, `insertNew`: writing and reading a member.
-/

set_option autoImplicit false

namespace Gazetteer

/-- A JSON value. -/
inductive Json where
  | null
  | bool (b : Bool)
  | int (n : Int)
  | float (x : Float)
  | text (s : String)
  | list (items : List Json)
  | object (members : List (String × Json))

/-- The members of an object. -/
abbrev Json.Object := List (String × Json)

instance : Inhabited Json := ⟨.null⟩

namespace Json

/-! ## Members -/

/-- Writes a member, in place of one with the same name. Names are kept in increasing order of
their characters. -/
def insert (key : String) (value : Json) : Object → Object
  | [] => [(key, value)]
  | (k, v) :: rest =>
    if key < k then (key, value) :: (k, v) :: rest
    else if key = k then (key, value) :: rest
    else (k, v) :: insert key value rest

/-- The member of a name. -/
def get? (key : String) : Object → Option Json
  | [] => none
  | (k, v) :: rest => if key = k then some v else get? key rest

/-- Writes a member only where its name is new. -/
def insertNew (key : String) (value : Json) (members : Object) : Object :=
  if (get? key members).isSome then members else insert key value members

/-- The object of some members; of two with one name the later counts. -/
def ofMembers (members : List (String × Json)) : Json :=
  .object (members.foldl (fun ms m => insert m.1 m.2 ms) [])

/-- The value of an optional part, `null` when it is absent. -/
def ofOption {α : Type} (f : α → Json) : Option α → Json
  | some a => f a
  | none => .null

/-! ## Members written and read -/

theorem get?_insert (key k : String) (value : Json) (members : Object) :
    get? k (insert key value members) = if k = key then some value else get? k members := by
  induction members with
  | nil => simp [insert, get?]
  | cons m rest ih =>
    obtain ⟨k', v'⟩ := m
    rw [insert]
    split
    · simp [get?]
    · split
      · next h =>
        subst h
        by_cases hk : k = key <;> simp [get?, hk]
      · next h =>
        rw [get?, ih, get?]
        by_cases hk : k = k'
        · have hne : ¬k' = key := fun he => h he.symm
          simp [hk, hne]
        · simp [hk]

theorem get?_insertNew (key k : String) (value : Json) (members : Object) :
    get? k (insertNew key value members) =
      if k = key then some ((get? key members).getD value) else get? k members := by
  rw [insertNew]
  cases h : get? key members with
  | none => simp [get?_insert]
  | some w =>
    simp only [Option.isSome_some, if_true, Option.getD_some]
    split
    · next hk => rw [hk, h]
    · rfl

end Json

end Gazetteer
