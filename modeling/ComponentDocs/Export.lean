import ComponentDocs.Component
import ComponentDocs.Json.Basic
import ComponentDocs.Text.Utf8
import ComponentDocs.Value.Display

/-!
# Components as JSON

JSON knows fewer kinds of values than a header does. A `Style` says what becomes of the others:
`printed` is for people, so that what has no JSON form is displayed, and `served` is for programs, so
that it takes the nearest JSON form. A container that holds itself has no JSON form in either. What
is served travels as octets, so it may not hold half of a surrogate pair, and its depth is limited.
-/

set_option autoImplicit false

namespace ComponentDocs.Export

/-- Why a value has no JSON form. -/
inductive Error where
  /-- A key of a mapping is neither a text nor a number, a truth value or null. -/
  | unusableKey
  /-- A container holds itself. -/
  | loop
  /-- A string of octets encodes no text. -/
  | notText
  /-- An integer has too many digits to be written. -/
  | tooManyDigits
  /-- A text holds half of a surrogate pair. -/
  | notEncodable
  /-- Containers stand inside each other beyond the depth that is followed. -/
  | tooDeep
deriving DecidableEq

/-- How values that are no JSON values are written. -/
structure Style where
  /-- The JSON form of a value that is no container. -/
  scalar : Value → Except Error Json
  /-- The text of a key. -/
  key : Value → Except Error Text
  /-- Whether a set is an array rather than its display. -/
  setIsArray : Bool
  /-- The most containers that a value may stand in, itself included. -/
  maxDepth : Option Nat

mutual

/-- The JSON form of a value. -/
def ofValue (s : Style) : Value → Except Error Json
  | .list items => do return .array (← ofValues s items)
  | .tuple items => do return .array (← ofValues s items)
  | .set items =>
      if s.setIsArray then do return .array (← ofValues s items)
      -- the members of a set are keys, so none of them is a container
      else if items.all Value.isWritable then .ok (.string (Value.display (.set items)))
      else .error .tooManyDigits
  | .map entries => do return .object (← ofEntries s entries)
  | .loop _ => .error .loop
  | .null => s.scalar .null
  | .bool b => s.scalar (.bool b)
  | .int n => s.scalar (.int n)
  | .float x => s.scalar (.float x)
  | .text t => s.scalar (.text t)
  | .bytes octets => s.scalar (.bytes octets)
  | .date d => s.scalar (.date d)
  | .moment m => s.scalar (.moment m)

/-- The JSON forms of several values. -/
def ofValues (s : Style) : List Value → Except Error (List Json)
  | [] => .ok []
  | v :: rest => do
      let j ← ofValue s v
      return j :: (← ofValues s rest)

/-- The members for the entries of a mapping. -/
def ofEntries (s : Style) : List (Value × Value) → Except Error (List (Text × Json))
  | [] => .ok []
  | (k, v) :: rest => do
      let key ← s.key k
      let j ← ofValue s v
      return (key, j) :: (← ofEntries s rest)

end

mutual

/-- The number of values that stand inside each other in a value, itself included. -/
def depth : Value → Nat
  | .list items => depthOfAll items + 1
  | .tuple items => depthOfAll items + 1
  | .set items => depthOfAll items + 1
  | .map entries => depthOfEntries entries + 1
  | _ => 1

/-- The depth of the deepest of several values. -/
def depthOfAll : List Value → Nat
  | [] => 0
  | v :: rest => max (depth v) (depthOfAll rest)

/-- The depth of the deepest value of a mapping. -/
def depthOfEntries : List (Value × Value) → Nat
  | [] => 0
  | (_, v) :: rest => max (depth v) (depthOfEntries rest)

end

/-- Whether a value is deeper than a style allows. -/
def isTooDeep (s : Style) (v : Value) : Bool :=
  match s.maxDepth with
  | none => false
  | some most => most < depth v

/-- The JSON form of a value that is not too deep. -/
def ofMember (s : Style) (v : Value) : Except Error Json :=
  if isTooDeep s v then .error .tooDeep else ofValue s v

/-! ## Styles -/

/-- The text of a floating-point number, with words for those that are no numbers. -/
def floatText (x : Float) : Text :=
  if x.isNaN then "NaN"
  else if x.isInf then (if x < 0.0 then "-Infinity" else "Infinity")
  else Decimal.ofFloat x

/-- The word for a truth value. -/
def boolText (b : Bool) : Text :=
  if b then "true" else "false"

/-- An integer in base ten. -/
def integerText (n : Int) : Except Error Text :=
  if Decimal.isWritable n then .ok (Text.ofInt n) else .error .tooManyDigits

/-- A value for people. -/
def printedScalar : Value → Except Error Json
  | .null => .ok .null
  | .bool b => .ok (.bool b)
  | .int n => do return .number (← integerText n)
  | .float x => .ok (.number (floatText x))
  | v => .ok (.string v.display)

/-- A key for people. -/
def printedKey : Value → Except Error Text
  | .text t => .ok t
  | .null => .ok "null"
  | .bool b => .ok (boolText b)
  | .int n => integerText n
  | .float x => .ok (floatText x)
  | _ => .error .unusableKey

/-- The style for people: dates, octets and sets are displayed. -/
def printed : Style :=
  ⟨printedScalar, printedKey, false, none⟩

/-- The text of a moment, with a letter for universal time. -/
def momentText (m : Moment) : Text :=
  if m.offset = some 0 then m.isoLocal 'T' ++ "Z" else m.iso 'T'

/-- The text that a string of octets encodes. -/
def bytesText (octets : List UInt8) : Except Error Text :=
  match Text.ofUtf8? octets with
  | some t => .ok t
  | none => .error .notText

/-- A floating-point number for programs: positional from the fifth place behind the decimal point on,
exponents without zeros in front, and none for what is no finite number. -/
def servedFloat? (x : Float) : Option Text :=
  if x.isNaN || x.isInf then none else some (Decimal.spell ⟨-4, 1⟩ x)

/-- A value for programs. -/
def servedScalar : Value → Except Error Json
  | .null => .ok .null
  | .bool b => .ok (.bool b)
  | .int n => .ok (Json.int n)
  | .float x => .ok ((servedFloat? x).elim .null .number)
  | .bytes octets => do return .string (← bytesText octets)
  | .moment m => .ok (.string (momentText m))
  | v => .ok (.string v.display)

/-- A key for programs. -/
def servedKey : Value → Except Error Text
  | .bool b => .ok (boolText b)
  | .bytes octets => bytesText octets
  | .moment m => .ok (momentText m)
  | .int n => integerText n
  | .float x => .ok (if x.isNaN || x.isInf then Value.display .null else Decimal.ofFloat x)
  | v => .ok v.display

/-- The style for programs: dates and octets are texts, sets are arrays. -/
def served : Style :=
  ⟨servedScalar, servedKey, true, some 252⟩

/-! ## Components -/

/-- A text that may be missing. -/
def optionalText : Option Text → Json
  | none => .null
  | some t => .string t

/-- A code block as JSON; its height is left out when it has none. -/
def ofBlock (b : CodeBlock) : Json :=
  let height : List (Text × Json) :=
    match b.height with
    | none => []
    | some h => [("height", .string h)]
  .object (("extension", .string b.extension) :: ("code", .string b.code) ::
    ("hidden", .bool b.hidden) :: height)

/-- The options of an example as JSON. -/
def ofOptions (s : Style) : List (Text × Value) → Except Error (List (Text × Json))
  | [] => .ok []
  | (k, v) :: rest => do
      let j ← ofMember s v
      return (k, j) :: (← ofOptions s rest)

/-- An example as JSON. -/
def ofExample (s : Style) (e : Example) : Except Error Json := do
  let options ← ofOptions s e.options.entries
  return .object [("name", .string e.name),
    ("blocks", .array (e.blocks.map ofBlock)), ("options", .object options)]

/-- A metadata entry as JSON. -/
def ofMetaEntry (s : Style) (m : MetaEntry) : Except Error Json := do
  let j ← ofMember s m.value
  return .object [("key", .string m.key), ("value", j)]

/-- A component as JSON. -/
def ofComponent (s : Style) (c : Component) : Except Error Json := do
  let metadata ← c.metadata.mapM (ofMetaEntry s)
  let examples ← c.examples.entries.mapM fun e => do return (e.1, ← ofExample s e.2)
  return .object [("name", optionalText c.name), ("category", optionalText c.category),
    ("meta", .array metadata), ("description", .string c.description),
    ("examples", .object examples)]

/-- Components as a JSON array. -/
def ofComponents (s : Style) (components : List Component) : Except Error Json := do
  return .array (← components.mapM (ofComponent s))

/-- Components in the form in which they are served. -/
def serve (components : List Component) : Except Error Json := do
  let j ← ofComponents served components
  if j.isEncodable then return j else throw .notEncodable

end ComponentDocs.Export
