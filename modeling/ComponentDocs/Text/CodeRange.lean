import ComponentDocs.Text.CodePoint

/-!
# Ranges of code points

A class of characters is given as a list of closed ranges of code points, in ascending order and
without overlap. `covers` decides membership.
-/

set_option autoImplicit false

namespace ComponentDocs

/-- A closed range of code points, first and last. -/
abbrev CodeRange := Nat × Nat

/-- Whether one of the ranges holds the character. -/
def CodeRange.covers (ranges : List CodeRange) (c : CodePoint) : Bool :=
  ranges.any fun r => r.1 ≤ c.toNat && c.toNat ≤ r.2

end ComponentDocs
