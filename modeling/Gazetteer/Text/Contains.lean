/-!
# Finding a text inside another

`occursIn needle hay` decides whether `needle` is a contiguous part of `hay`.
-/

set_option autoImplicit false

namespace Gazetteer.Text

/-- `needle` stands somewhere in the list, its characters next to each other. -/
def occursIn {α : Type} [BEq α] (needle : List α) : List α → Bool
  | [] => needle.isEmpty
  | c :: rest => needle.isPrefixOf (c :: rest) || occursIn needle rest

theorem occursIn_iff {α : Type} [BEq α] [LawfulBEq α] (needle hay : List α) :
    occursIn needle hay = true ↔ needle <:+: hay := by
  induction hay with
  | nil => simp [occursIn, List.isEmpty_iff]
  | cons c rest ih =>
    rw [occursIn, Bool.or_eq_true, ih, List.isPrefixOf_iff_prefix, List.infix_cons_iff]

end Gazetteer.Text
