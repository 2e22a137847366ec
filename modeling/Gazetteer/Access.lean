/-!
# Who acts and what they may do

* `Principal`: the caller of an operation.
* `Permission`: how far a caller may go with an entity, in increasing order.
* `Permission.held`: the permission of an owner and of anyone else.
-/

set_option autoImplicit false

namespace Gazetteer

/-- The caller of an operation. -/
structure Principal where
  id : Int
  username : String
  deriving DecidableEq, Inhabited, Repr

/-- How far a caller may go with an entity. -/
inductive Permission where
  | read
  | write
  | admin
  deriving DecidableEq, Inhabited, Repr

namespace Permission

/-- The level that stands for a permission in data. -/
def level : Permission → Nat
  | .read => 0
  | .write => 1
  | .admin => 2

/-- The permission of a level; every level from two on is the highest one. -/
def ofLevel : Nat → Permission
  | 0 => .read
  | 1 => .write
  | _ => .admin

def name : Permission → String
  | .read => "Read"
  | .write => "Write"
  | .admin => "Admin"

instance : LT Permission := ⟨fun a b => a.level < b.level⟩

instance (a b : Permission) : Decidable (a < b) := inferInstanceAs (Decidable (a.level < b.level))

/-- The permission on an entity: its owner has all of it, anyone else reads at most. -/
def held (isOwner : Bool) : Permission := if isOwner then .admin else .read

theorem ofLevel_level (p : Permission) : ofLevel p.level = p := by cases p <;> rfl

end Permission

end Gazetteer
