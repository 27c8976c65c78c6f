import ComponentDocs.Decimal.Limit
import ComponentDocs.Text.Quoted
import ComponentDocs.Value.Basic

/-!
# Values as text

`literal` writes a value so that its kind can be told: texts are quoted, dates name their type, and
containers show the literals of their members. `display` writes a value for reading: texts and dates
stand as they are, and everything else as its literal.

Integers have a limit on their digits, and literals can stand inside each other only to some depth.
`literalFault?` and `displayFault?` tell what a value exceeds first as it is written from left to right.
-/

set_option autoImplicit false

namespace ComponentDocs.Value

/-- Whole days and remaining seconds of a distance in minutes. -/
def daysAndSeconds (minutes : Int) : Int × Int :=
  (minutes.fdiv 1440, minutes.fmod 1440 * 60)

/-- The literal of the distance of a clock from universal time. -/
def offsetLiteral (minutes : Int) : Text :=
  if minutes = 0 then "datetime.timezone.utc"
  else
    let (days, seconds) := daysAndSeconds minutes
    let parts :=
      (if days = 0 then [] else ["days=" ++ Text.ofInt days]) ++
        (if seconds = 0 then [] else ["seconds=" ++ Text.ofInt seconds])
    "datetime.timezone(datetime.timedelta(" ++ Text.join ", " parts ++ "))"

/-- The literal of a date: its parts in order. -/
def dateLiteral (d : Date) : Text :=
  "datetime.date(" ++ Text.join ", " ([d.year, d.month, d.day].map Text.ofNat) ++ ")"

/-- The literal of a moment: its parts in order, seconds and microseconds only when needed. -/
def momentLiteral (m : Moment) : Text :=
  let small : List Nat :=
    if m.microsecond ≠ 0 then [m.second, m.microsecond]
    else if m.second ≠ 0 then [m.second]
    else []
  let parts := ([m.date.year, m.date.month, m.date.day, m.hour, m.minute] ++ small).map Text.ofNat
  let zone :=
    match m.offset with
    | none => []
    | some minutes => ["tzinfo=" ++ offsetLiteral minutes]
  "datetime.datetime(" ++ Text.join ", " (parts ++ zone) ++ ")"

/-- The sign that stands for a container inside itself. -/
def loopLiteral : Bracket → Text
  | .round => "(...)"
  | .square => "[...]"
  | .curly => "\x7b...\x7d"

mutual

/-- A value with its kind showing. -/
def literal : Value → Text
  | null => "None"
  | bool b => if b then "True" else "False"
  | int n => Text.ofInt n
  | float x => Decimal.ofFloat x
  | text t => t.quoted
  | bytes octets => Text.quotedBytes octets
  | date d => dateLiteral d
  | moment m => momentLiteral m
  | list items => "[" ++ Text.join ", " (literals items) ++ "]"
  | tuple items =>
      "(" ++ Text.join ", " (literals items) ++ (if items.length = 1 then ",)" else ")")
  | set items =>
      if items.isEmpty then "set()"
      else "\x7b" ++ Text.join ", " (literals items) ++ "\x7d"
  | map entries => "\x7b" ++ Text.join ", " (entryLiterals entries) ++ "\x7d"
  | loop kind => loopLiteral kind

/-- The literals of the members of a container. -/
def literals : List Value → List Text
  | [] => []
  | v :: rest => literal v :: literals rest

/-- The literals of the entries of a mapping. -/
def entryLiterals : List (Value × Value) → List Text
  | [] => []
  | (k, v) :: rest => (literal k ++ ": " ++ literal v) :: entryLiterals rest

end

/-- A value for reading. -/
def display : Value → Text
  | text t => t
  | date d => d.iso
  | moment m => m.iso ' '
  | v => literal v

/-! ## Values that cannot be written -/

/-- Why a value cannot be written. -/
inductive Fault where
  /-- An integer has too many digits. -/
  | tooManyDigits
  /-- Literals stand inside each other beyond the depth that is followed. -/
  | tooDeep
deriving DecidableEq

/-- Whether a value that is no container has few enough digits to be written. -/
def isWritable : Value → Bool
  | int n => Decimal.isWritable n
  | _ => true

/-- The number of literals that stand inside each other in the literal of a moment: that of its zone,
and that of the distance from universal time. -/
def zoneDepth (m : Moment) : Nat :=
  match m.offset with
  | none => 0
  | some minutes => if minutes = 0 then 1 else 2

mutual

/-- What keeps the literal of a value from being written, if only so many literals can stand inside
each other in it. The members of a set are written as a list of their own. -/
def literalFault? : Value → Nat → Option Fault
  | int n, _ => if Decimal.isWritable n then none else some .tooManyDigits
  | moment m, reach => if reach < zoneDepth m then some .tooDeep else none
  | list items, reach => memberFault? items reach
  | tuple items, reach => memberFault? items reach
  | set items, reach => memberFault? items (reach - 1)
  | map entries, reach => entryFault? entries reach
  | _, _ => none

/-- What keeps the members of a container from being written, the first fault first. -/
def memberFault? : List Value → Nat → Option Fault
  | [], _ => none
  | _ :: _, 0 => some .tooDeep
  | v :: rest, reach + 1 => (literalFault? v reach).or (memberFault? rest (reach + 1))

/-- What keeps the entries of a mapping from being written, the first fault first. -/
def entryFault? : List (Value × Value) → Nat → Option Fault
  | [], _ => none
  | _ :: _, 0 => some .tooDeep
  | (k, v) :: rest, reach + 1 =>
      ((literalFault? k reach).or (literalFault? v reach)).or (entryFault? rest (reach + 1))

end

/-- What keeps a value from being written for reading. -/
def displayFault? : Value → Nat → Option Fault
  | text _, _ | date _, _ | moment _, _ => none
  | v, reach => literalFault? v reach

end ComponentDocs.Value
