import ComponentDocs.Decimal.Limit
import ComponentDocs.Text.Blank
import ComponentDocs.Text.Digit

/-!
# Numbers read from text

Integers in any base up to thirty-six and floating-point numbers, in the form in which people type
them: blank characters around the number, a sign, single low lines between digits, and the decimal
digits of every script. `integer?` also accepts the letter that marks a base behind a zero, when it
marks the base that is asked for.
-/

set_option autoImplicit false

namespace ComponentDocs.Decimal

/-- Whether a character may stand around a number: a blank one other than the information
separators. -/
def isMargin (c : CodePoint) : Bool :=
  Text.isBlank c && !(28 ≤ c.toNat && c.toNat ≤ 31)

/-- The sign in front of a number, and what follows it. -/
def signOf : Text → Int × Text
  | '-' :: rest => (-1, rest)
  | '+' :: rest => (1, rest)
  | t => (1, t)

/-- The value of a digit in a base: a decimal digit of any script, or an ASCII letter. -/
def digitIn? (base : Nat) (c : CodePoint) : Option Nat :=
  ((Text.decimalValue? c).or (Text.asciiDigitValue? c)).filter (· < base)

/-- The digits of a number; a low line may stand between two of them. -/
def digits? (base : Nat) : Text → Option (List Nat)
  | [] => none
  | [c] => (digitIn? base c).map ([·])
  | c :: '_' :: rest => do return (← digitIn? base c) :: (← digits? base rest)
  | c :: rest => do return (← digitIn? base c) :: (← digits? base rest)

/-- The number that a list of digits stands for. -/
def ofDigits (base : Nat) (digits : List Nat) : Nat :=
  digits.foldl (fun n d => n * base + d) 0

/-- The letter that marks a base, in either case. -/
def marksBase (base : Nat) (c : CodePoint) : Bool :=
  (base == 16 && (c == 'x' || c == 'X')) || (base == 8 && (c == 'o' || c == 'O')) ||
    (base == 2 && (c == 'b' || c == 'B'))

/-- The digits behind a mark of the base, if there is one. -/
def withoutMark (base : Nat) : Text → Text
  | '0' :: c :: rest =>
      if marksBase base c then (match rest with | '_' :: more => more | _ => rest)
      else '0' :: c :: rest
  | t => t

/-- The integer that a text spells in a base. -/
def integer? (base : Nat) (t : Text) : Option Int :=
  let (sign, magnitude) := signOf (t.trim isMargin)
  match digits? base (withoutMark base magnitude) with
  | none => none
  | some ds =>
      if base = 10 ∧ maxDigits < ds.length then none else some (sign * ofDigits base ds)

/-- The floating-point number nearest to `coefficient * 10 ^ exponent`. -/
def nearestFloat (coefficient : Nat) (exponent : Int) : Float :=
  let size : Int := (Text.ofNat coefficient).length
  if coefficient = 0 then 0.0
  else if 400 < size + exponent then 1.0 / 0.0
  else if size + exponent < -400 then 0.0
  else if exponent < 0 then Float.ofScientific coefficient true exponent.natAbs
  else Float.ofScientific coefficient false exponent.natAbs

/-- A run of decimal digits with single low lines between them, possibly empty, and the rest. -/
def digitRun : Text → List Nat × Text
  | [] => ([], [])
  | '_' :: c :: rest =>
      match Text.decimalValue? c with
      | some _ => digitRun (c :: rest)
      | none => ([], '_' :: c :: rest)
  | c :: rest =>
      match Text.decimalValue? c with
      | some d => (d :: (digitRun rest).1, (digitRun rest).2)
      | none => ([], c :: rest)
termination_by t => t.length

/-- The exponent behind the digits of a number; no exponent counts as zero. -/
def exponent? : Text → Option Int
  | [] => some 0
  | c :: rest =>
      if c == 'e' || c == 'E' then
        let (sign, magnitude) := signOf rest
        match digitRun magnitude with
        | ([], _) => none
        | (ds, []) => if magnitude.head? = some '_' then none else some (sign * ofDigits 10 ds)
        | _ => none
      else none

/-- The magnitude of a floating-point number spelled with digits. -/
def floatMagnitude? (t : Text) : Option Float :=
  if t.head? = some '_' then none
  else
    let (whole, rest) := digitRun t
    let (fraction, tail) : List Nat × Text :=
      match rest with
      | '.' :: '_' :: more => ([], '.' :: '_' :: more)
      | '.' :: more => digitRun more
      | _ => ([], rest)
    if whole.isEmpty && fraction.isEmpty then none
    else (exponent? tail).map fun e =>
      nearestFloat (ofDigits 10 (whole ++ fraction)) (e - fraction.length)

/-- The floating-point number that a text spells, with the words for infinity and for no number. -/
def float? (t : Text) : Option Float :=
  let (sign, magnitude) := signOf (t.trim isMargin)
  let word := magnitude.map CodePoint.toLower
  let value : Option Float :=
    if word = "inf" || word = "infinity" then some (1.0 / 0.0)
    else if word = "nan" then some (0.0 / 0.0)
    else floatMagnitude? magnitude
  value.map fun x => if sign < 0 then -x else x

end ComponentDocs.Decimal
