import ComponentDocs.Text.Basic

/-!
# Tags

The types that a node can have, and the type that an untagged plain scalar has by its form: the words
for truth values and for nothing, numbers in several bases and in base sixty, dates and moments, the
key that merges mappings, and text for all else.
-/

set_option autoImplicit false

namespace ComponentDocs.Yaml

/-- The type of a node. -/
inductive Tag where
  | null
  | bool
  | int
  | float
  | binary
  | timestamp
  | text
  | sequence
  | mapping
  | set
  | orderedMap
  | pairs
  /-- The key under which a mapping takes over the entries of others. -/
  | merge
  /-- The key of the default value of a mapping. -/
  | defaultValue
  /-- A tag that no value is built for. -/
  | unknown
deriving DecidableEq

namespace Tag

/-- The known tags by their last part. -/
def names : List (Text × Tag) :=
  [("null", null), ("bool", bool), ("int", int), ("float", float),
    ("binary", binary), ("timestamp", timestamp), ("str", text),
    ("seq", sequence), ("map", mapping), ("set", set),
    ("omap", orderedMap), ("pairs", pairs), ("merge", merge),
    ("value", defaultValue)]

/-- The tag with a full name. -/
def ofName (name : Text) : Tag :=
  match Text.after? "tag:yaml.org,2002:" name with
  | none => unknown
  | some last => (names.lookup last).getD unknown

/-! ## The forms of plain scalars -/

/-- The words for truth values. -/
def truthWords : List (Text × Bool) :=
  (["yes", "Yes", "YES", "true", "True", "TRUE", "on", "On", "ON"] : List Text).map (·, true) ++
    (["no", "No", "NO", "false", "False", "FALSE", "off", "Off", "OFF"] : List Text).map (·, false)

/-- A text without a sign in front. -/
def unsigned : Text → Text
  | '-' :: rest => rest
  | '+' :: rest => rest
  | t => t

/-- Whether a text is a digit followed by digits and low lines. -/
def isGrouped : Text → Bool
  | [] => false
  | c :: rest => c.isDigit && rest.all fun d => d.isDigit || d == '_'

/-- Whether a text is a digit in base sixty: one or two decimal digits. -/
def isSexagesimal : Text → Bool
  | [c] => c.isDigit
  | [c, d] => '0' ≤ c && c ≤ '5' && d.isDigit
  | _ => false

/-- Whether a text is not empty and has only characters of a class or low lines. -/
def isRunOf (p : CodePoint → Bool) (t : Text) : Bool :=
  !t.isEmpty && t.all fun c => p c || c == '_'

/-- Whether a character is a hexadecimal digit. -/
def isHexDigit (c : CodePoint) : Bool :=
  c.isDigit || ('a' ≤ c && c ≤ 'f') || ('A' ≤ c && c ≤ 'F')

/-- Whether a text has the form of an integer. -/
def isInteger (t : Text) : Bool :=
  match unsigned t with
  | ['0'] => true
  | '0' :: 'b' :: digits => isRunOf (fun c => c == '0' || c == '1') digits
  | '0' :: 'x' :: digits => isRunOf isHexDigit digits
  | '0' :: digits => isRunOf (fun c => '0' ≤ c && c ≤ '7') digits
  | magnitude =>
      match magnitude.pieces (· == ':') with
      | first :: others => isGrouped first && others.all isSexagesimal
      | [] => false

/-- Whether a text is empty or a signed exponent of ten. -/
def isExponent : Text → Bool
  | [] => true
  | e :: sign :: digits =>
      (e == 'e' || e == 'E') && (sign == '+' || sign == '-') && !digits.isEmpty &&
        digits.all CodePoint.isDigit
  | _ => false

/-- Whether a text is a run of digits and low lines with an exponent behind it. -/
def isFraction (t : Text) : Bool :=
  isExponent (t.dropWhile fun c => c.isDigit || c == '_')

/-- Whether a text has the form of a floating-point number. -/
def isFloat (t : Text) : Bool :=
  let magnitude := unsigned t
  ([".inf", ".Inf", ".INF"] : List Text).contains magnitude ||
    ([".nan", ".NaN", ".NAN"] : List Text).contains t ||
    (match t with
      | '.' :: d :: rest => d.isDigit && isFraction rest
      | _ => false) ||
    (match magnitude.cutAt '.' with
      | (whole, some rest) =>
          (isGrouped whole && isFraction rest) ||
            (match Text.pieces (· == ':') whole with
              | first :: second :: others =>
                  isGrouped first && (second :: others).all isSexagesimal &&
                    rest.all fun c => c.isDigit || c == '_'
              | _ => false)
      | (_, none) => false)

/-! ## Points in time -/

/-- The parts of a point in time, as they are written. -/
structure Timestamp where
  year : Text
  month : Text
  day : Text
  /-- Hour, minute, second and the fraction of a second. -/
  time : Option (Text × Text × Text × Text) := none
  /-- The sign, the hours and the minutes of the distance from universal time. -/
  zone : Option (Option CodePoint × Text × Text) := none

/-- A run of at least and at most the given numbers of digits, and the rest. -/
def digitsBetween? (least most : Nat) (t : Text) : Option (Text × Text) :=
  let run := (t.take most).takeWhile CodePoint.isDigit
  if run.length < least then none else some (run, t.drop run.length)

/-- The rest behind a character. -/
def behind? (c : CodePoint) : Text → Option Text
  | d :: rest => if d = c then some rest else none
  | [] => none

/-- The distance from universal time behind a time of day. -/
def zone? : Text → Option (Option CodePoint × Text × Text)
  | ['Z'] => some (none, [], [])
  | sign :: rest => do
      if sign != '+' && sign != '-' then none
      else
        let (hours, rest) ← digitsBetween? 1 2 rest
        if rest.isEmpty then return (some sign, hours, [])
        else
          let (minutes, rest) ← digitsBetween? 2 2 (← behind? ':' rest)
          if rest.isEmpty then return (some sign, hours, minutes) else none
  | [] => none

/-- Whether a character is a space or a tabulator. -/
def isGap (c : CodePoint) : Bool :=
  c == ' ' || c == '\t'

/-- The time of day behind a date. -/
def time? (t : Text) :
    Option ((Text × Text × Text × Text) × Option (Option CodePoint × Text × Text)) := do
  let start ←
    match t with
    | 'T' :: rest => some rest
    | 't' :: rest => some rest
    | c :: rest => if isGap c then some (rest.dropWhile isGap) else none
    | [] => none
  let (hour, rest) ← digitsBetween? 1 2 start
  let (minute, rest) ← digitsBetween? 2 2 (← behind? ':' rest)
  let (second, rest) ← digitsBetween? 2 2 (← behind? ':' rest)
  let (fraction, rest) : Text × Text :=
    match rest with
    | '.' :: more => (more.takeWhile CodePoint.isDigit, more.dropWhile CodePoint.isDigit)
    | _ => ([], rest)
  if rest.isEmpty then return ((hour, minute, second, fraction), none)
  else return ((hour, minute, second, fraction), some (← zone? (rest.dropWhile isGap)))

/-- The parts of a point in time, if a text has the form of one. -/
def timestamp? (t : Text) : Option Timestamp := do
  let (year, rest) ← digitsBetween? 4 4 t
  let (month, rest) ← digitsBetween? 1 2 (← behind? '-' rest)
  let (day, rest) ← digitsBetween? 1 2 (← behind? '-' rest)
  if rest.isEmpty then return { year, month, day }
  else
    let (time, zone) ← time? rest
    return { year, month, day, time := some time, zone }

/-- Whether a plain scalar has the form of a point in time; a date alone has two digits for the month
and two for the day. -/
def isTimestamp (t : Text) : Bool :=
  match timestamp? t with
  | none => false
  | some s => s.time.isSome || (s.month.length == 2 && s.day.length == 2)

/-! ## Resolution -/

/-- A text without one line feed at its end. -/
def withoutFinalFeed (t : Text) : Text :=
  if t.getLast? = some '\n' then t.dropLast else t

/-- The tag that an untagged plain scalar has by its form. -/
def ofPlain (raw : Text) : Tag :=
  if raw.isEmpty then null
  else
    let t := withoutFinalFeed raw
    if (truthWords.lookup t).isSome then bool
    else if isFloat t then float
    else if isInteger t then int
    else if t == "<<" then merge
    else if (["~", "null", "Null", "NULL"] : List Text).contains t then null
    else if isTimestamp t then timestamp
    else if t == "=" then defaultValue
    else if (["!", "&", "*"] : List Text).contains t then unknown
    else text

end Tag

end ComponentDocs.Yaml
