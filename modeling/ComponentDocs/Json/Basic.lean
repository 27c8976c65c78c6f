import ComponentDocs.Text.Quoted

/-!
# JSON texts

JSON values with their numbers kept as written, and how they are laid out: on one line with given
separators, or over several lines with a given indentation.
-/

set_option autoImplicit false

namespace ComponentDocs

/-- A JSON value; objects keep the order of their members. -/
inductive Json where
  | null
  | bool (b : Bool)
  | number (text : Text)
  | string (t : Text)
  | array (items : List Json)
  | object (members : List (Text × Json))
deriving Inhabited

namespace Json

/-- An integer as JSON. -/
def int (n : Int) : Json :=
  number (Text.ofInt n)

/-- One character inside a JSON string. -/
def escapeChar (c : CodePoint) : Text :=
  if c = '"' then "\\\""
  else if c = '\\' then "\\\\"
  else if c = '\n' then "\\n"
  else if c = '\r' then "\\r"
  else if c = '\t' then "\\t"
  else if c.toNat = 8 then "\\b"
  else if c.toNat = 12 then "\\f"
  else if c.toNat < 32 then "\\u" ++ Text.hex 4 c.toNat
  else [c]

/-- A text as a JSON string. -/
def quote (t : Text) : Text :=
  "\"" ++ t.flatMap escapeChar ++ "\""

/-- How the members of arrays and objects are separated and indented. -/
structure Layout where
  itemSeparator : Text
  keySeparator : Text
  /-- The width of one step of indentation; without it all stands on one line. -/
  indent : Option Nat := none

namespace Layout

/-- One line, with spaces behind separators. -/
def inline : Layout := ⟨", ", ": ", none⟩

/-- One line without spaces. -/
def compact : Layout := ⟨",", ":", none⟩

/-- One line for each member. -/
def indented (width : Nat) : Layout := ⟨",", ": ", some width⟩

/-- The line end in front of a member at a depth. -/
def newline (l : Layout) (depth : Nat) : Text :=
  match l.indent with
  | none => []
  | some width => '\n' :: List.replicate (width * depth) ' '

/-- Members between brackets; none at all leave the brackets empty. -/
def bracket (l : Layout) (depth : Nat) (opening closing : CodePoint) (members : List Text) : Text :=
  if members.isEmpty then [opening, closing]
  else
    opening :: l.newline (depth + 1) ++
      Text.join (l.itemSeparator ++ l.newline (depth + 1)) members ++ l.newline depth ++ [closing]

end Layout

mutual

/-- The text of a JSON value at a depth. -/
def renderAt (l : Layout) : Nat → Json → Text
  | _, null => "null"
  | _, bool b => if b then "true" else "false"
  | _, number text => text
  | _, string t => quote t
  | depth, array items => l.bracket depth '[' ']' (renderItems l (depth + 1) items)
  | depth, object members => l.bracket depth '\x7b' '\x7d' (renderMembers l (depth + 1) members)

/-- The texts of the items of an array. -/
def renderItems (l : Layout) : Nat → List Json → List Text
  | _, [] => []
  | depth, v :: rest => renderAt l depth v :: renderItems l depth rest

/-- The texts of the members of an object. -/
def renderMembers (l : Layout) : Nat → List (Text × Json) → List Text
  | _, [] => []
  | depth, (k, v) :: rest =>
      (quote k ++ l.keySeparator ++ renderAt l depth v) :: renderMembers l depth rest

end

/-- The text of a JSON value. -/
def render (l : Layout) (j : Json) : Text :=
  renderAt l 0 j

/-- Whether a JSON value can be sent as octets: no half of a surrogate pair can. -/
def isEncodable (j : Json) : Bool :=
  !(j.render .compact).any CodePoint.isHalf

/-- The member of an object with a key, the last one when the key is repeated. -/
def get? (key : Text) : Json → Option Json
  | object members => (members.reverse.find? fun m => m.1 == key).map Prod.snd
  | _ => none

end Json

end ComponentDocs
