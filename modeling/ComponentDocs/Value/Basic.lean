import ComponentDocs.Calendar
import ComponentDocs.Decimal.Shortest

/-!
# Values

A value is what a field of a header or of the settings can hold. Values are trees; where a container
occurs inside itself, the inner occurrence is a `loop` that remembers the kind of container.

`isTruthy` tells empty values from the others, and `sameKey` is the equality by which a mapping
finds its keys: numbers are compared by what they are worth, whatever their kind.
-/

set_option autoImplicit false

namespace ComponentDocs

/-- The kind of brackets that a container is written in. -/
inductive Bracket where
  | round
  | square
  | curly
deriving DecidableEq

/-- A dynamically typed value. -/
inductive Value where
  | null
  | bool (b : Bool)
  | int (n : Int)
  | float (x : Float)
  | text (t : Text)
  | bytes (octets : List UInt8)
  | date (d : Date)
  | moment (m : Moment)
  | list (items : List Value)
  | tuple (items : List Value)
  | set (items : List Value)
  | map (entries : List (Value × Value))
  | loop (kind : Bracket)
deriving Inhabited

namespace Value

/-- Whether a value is neither null, false, zero nor empty. -/
def isTruthy : Value → Bool
  | null => false
  | bool b => b
  | int n => n != 0
  | float x => x != 0.0
  | text t => !t.isEmpty
  | bytes octets => !octets.isEmpty
  | date _ => true
  | moment _ => true
  | list items => !items.isEmpty
  | tuple items => !items.isEmpty
  | set items => !items.isEmpty
  | map entries => !entries.isEmpty
  | loop _ => true

/-- A number of either kind: an integer, or a floating-point number that is none. -/
inductive Number where
  | whole (n : Int)
  | fractional (x : Float)

/-- The number that a value is worth; truth values count as zero and one. -/
def number? : Value → Option Number
  | bool b => some (.whole (if b then 1 else 0))
  | int n => some (.whole n)
  | float x =>
      match Decimal.integerOfFloat? x with
      | some n => some (.whole n)
      | none => some (.fractional x)
  | _ => none

/-- Whether two values are the same key of a mapping. -/
def sameKey (a b : Value) : Bool :=
  match a.number?, b.number? with
  | some (.whole m), some (.whole n) => m == n
  | some (.fractional x), some (.fractional y) => x == y
  | some _, _ => false
  | _, some _ => false
  | none, none =>
      match a, b with
      | null, null => true
      | text s, text t => s == t
      | bytes s, bytes t => s == t
      | date s, date t => s == t
      | moment s, moment t => s.same t
      | _, _ => false

end Value

end ComponentDocs
