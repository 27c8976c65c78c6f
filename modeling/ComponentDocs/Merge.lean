import ComponentDocs.Component
import ComponentDocs.Text.Blank

/-!
# Merging components

Components that share a name become one, in order of first appearance. The first category that is
not empty wins, metadata is concatenated, descriptions are joined by a blank line, and examples of
one name are extended. A component without a name and one whose name is empty share a group.
-/

set_option autoImplicit false

namespace ComponentDocs

/-- Two descriptions joined by a blank line; one that is blank gives way to the other. -/
def joinDescriptions (first second : Text) : Text :=
  if second.isBlankText then first
  else if first.isBlankText then second
  else first.trimRight (· == '\n') ++ "\n\n" ++ second.trimLeft (· == '\n')

namespace Component

/-- The name under which a component is grouped. -/
def groupName (c : Component) : Text :=
  c.name.getD []

/-- Whether a category is present and not empty. -/
def hasCategory (c : Component) : Bool :=
  match c.category with
  | none => false
  | some category => !category.isEmpty

/-- A component whose examples are registered afresh under their names. -/
def fresh (c : Component) : Component :=
  { c with examples := .empty }.addExamples c.examples.entries

/-- A component with all that another one of the same name adds to it. -/
def absorb (c other : Component) : Component :=
  { c with
    category := if !c.hasCategory && other.hasCategory then other.category else c.category
    metadata := c.metadata ++ other.metadata
    description := joinDescriptions c.description other.description
    : Component }.addExamples other.examples.entries

/-- The groups with one more component, which is absorbed by the one that leads its group. -/
def mergeInto (groups : OrderedMap Text Component) (c : Component) : OrderedMap Text Component :=
  groups.alter c.groupName fun
    | none => c.fresh
    | some leader => leader.absorb c

/-- One component for each name, in order of first appearance. -/
def merge (components : List Component) : List Component :=
  (components.foldl mergeInto .empty).values

end Component

end ComponentDocs
