import ComponentDocs.Value.Basic

/-!
# Fields

A field holds a single value, or several values in order.
-/

set_option autoImplicit false

namespace ComponentDocs

/-- What a field holds. -/
inductive Field where
  | single (value : Value)
  | many (values : List Value)

namespace Field

/-- The values of a field, in order. -/
def values : Field → List Value
  | single v => [v]
  | many vs => vs

/-- The content of a field as one value. -/
def value : Field → Value
  | single v => v
  | many vs => .list vs

end Field

end ComponentDocs
