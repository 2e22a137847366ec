/-!
# Splitting a list at a separator

`splitOn sep xs` holds the parts between the separators, empty ones included, so there is always one
part more than there are separators.
-/

set_option autoImplicit false

namespace Gazetteer.Text

/-- The parts of a list between the elements equal to `sep`. -/
def splitOn {α : Type} [BEq α] (sep : α) : List α → List (List α)
  | [] => [[]]
  | c :: rest =>
    if c == sep then [] :: splitOn sep rest
    else
      match splitOn sep rest with
      | first :: more => (c :: first) :: more
      | [] => [[c]]

end Gazetteer.Text
