import ComponentDocs.Decimal.Reading
import ComponentDocs.Text.Lowercase
import ComponentDocs.Value.Basic
import ComponentDocs.Yaml.Error
import ComponentDocs.Yaml.Tag

/-!
# The values of scalars

How the text of a scalar is read as a value of its type.
-/

set_option autoImplicit false

namespace ComponentDocs.Yaml.Scalar

/-- A text without low lines. -/
def ungrouped (t : Text) : Text :=
  t.filter (· != '_')

/-- A number that may be missing as a result. -/
def orBadValue {α : Type} : Option α → Except Error α
  | some a => .ok a
  | none => .error .badValue

/-- Whether a text begins with a minus sign, and the text behind a sign. -/
def signed (t : Text) : Bool × Text :=
  (t.head? == some '-', Tag.unsigned t)

/-- The truth value that a word stands for, in any case. -/
def bool (t : Text) : Except Error Value :=
  match Tag.truthWords.lookup t.lowercase with
  | some b => .ok (.bool b)
  | none => .error .unknownTruthWord

/-- The number that digits in base sixty stand for, most significant first. -/
def ofBaseSixty (digits : List Int) : Int :=
  digits.foldl (fun n d => n * 60 + d) 0

/-- The integer that a text stands for: in base two, eight, ten, sixteen or sixty. -/
def int (t : Text) : Except Error Value := do
  let plain := ungrouped t
  if plain.isEmpty then throw .emptyNumber
  let (negative, magnitude) := signed plain
  let n ←
    if magnitude == "0" then pure 0
    else if ("0b" : Text).isPrefixOf magnitude then
      orBadValue (Decimal.integer? 2 (magnitude.drop 2))
    else if ("0x" : Text).isPrefixOf magnitude then
      orBadValue (Decimal.integer? 16 (magnitude.drop 2))
    else
      match magnitude with
      | [] => throw .emptyNumber
      | '0' :: _ => orBadValue (Decimal.integer? 8 magnitude)
      | _ =>
          if magnitude.contains ':' then
            ofBaseSixty <$> (magnitude.pieces (· == ':')).mapM fun part =>
              orBadValue (Decimal.integer? 10 part)
          else orBadValue (Decimal.integer? 10 magnitude)
  return .int (if negative then -n else n)

/-- The sum of floating-point digits in base sixty, least significant first. The power of sixty of
every digit has to be within the range of floating-point numbers. -/
def sumBaseSixty : List Float → Nat → Float → Except Error Float
  | [], _, sum => .ok sum
  | d :: rest, base, sum =>
      if (Float.ofNat base).isInf then .error .oversizedNumber
      else sumBaseSixty rest (base * 60) (sum + d * Float.ofNat base)

/-- Whether a text is the word for what is no number, in any case and with any sign. -/
def isNoNumberWord (t : Text) : Bool :=
  (signed (ungrouped t).lowercase).2 == ".nan"

/-- The floating-point number that a text stands for. -/
def float (t : Text) : Except Error Value := do
  let plain := (ungrouped t).lowercase
  if plain.isEmpty then throw .emptyNumber
  let (negative, magnitude) := signed plain
  if isNoNumberWord t then return .float (0.0 / 0.0)
  let x ←
    if magnitude == ".inf" then pure (1.0 / 0.0)
    else if magnitude.contains ':' then do
      let digits ← (magnitude.pieces (· == ':')).mapM fun part => orBadValue (Decimal.float? part)
      sumBaseSixty digits.reverse 1 0.0
    else orBadValue (Decimal.float? magnitude)
  return .float (if negative then -1.0 * x else x)

/-! ## Octets -/

/-- The six bits that a character of the base-64 alphabet stands for. -/
def sixBits? (c : CodePoint) : Option Nat :=
  if 'A' ≤ c ∧ c ≤ 'Z' then some (c.toNat - 65)
  else if 'a' ≤ c ∧ c ≤ 'z' then some (c.toNat - 71)
  else if '0' ≤ c ∧ c ≤ '9' then some (c.toNat + 4)
  else if c = '+' then some 62
  else if c = '/' then some 63
  else none

/-- The octets of a text in base 64. Characters outside of the alphabet are passed over; padding ends
the text where it completes a group of four. The arguments are the place in the group, the bits left
over, and the number of padding characters met. -/
def base64? : Nat → Nat → Nat → Text → Option (List UInt8)
  | place, _, _, [] => if place = 0 then some [] else none
  | place, bits, pads, c :: rest =>
      if c = '=' then
        if 2 ≤ place ∧ 4 ≤ place + (pads + 1) then some []
        else base64? place bits (pads + 1) rest
      else
        match sixBits? c with
        | none => base64? place bits pads rest
        | some v =>
            match place with
            | 0 => base64? 1 v 0 rest
            | 1 => (base64? 2 (v % 16) 0 rest).map (UInt8.ofNat (bits * 4 + v / 16) :: ·)
            | 2 => (base64? 3 (v % 4) 0 rest).map (UInt8.ofNat (bits * 16 + v / 4) :: ·)
            | _ => (base64? 0 0 0 rest).map (UInt8.ofNat (bits * 64 + v) :: ·)

/-- The octets that a text stands for. -/
def binary (t : Text) : Except Error Value :=
  if t.any fun c => 128 ≤ c.toNat then .error .malformed
  else
    match base64? 0 0 0 t with
    | some octets => .ok (.bytes octets)
    | none => .error .malformed

/-! ## Points in time -/

/-- The number that a run of digits stands for. -/
def natOf (t : Text) : Nat :=
  t.foldl (fun n c => n * 10 + (c.toNat - 48)) 0

/-- The microseconds of a fraction of a second; further digits are dropped. -/
def microseconds (fraction : Text) : Nat :=
  natOf ((fraction ++ Decimal.zeros 6).take 6)

/-- The distance from universal time in minutes. -/
def offsetOf : Option CodePoint × Text × Text → Int
  | (none, _, _) => 0
  | (some sign, hours, minutes) =>
      let n : Int := natOf hours * 60 + natOf minutes
      if sign = '-' then -n else n

/-- The date or the moment that a text stands for. -/
def timestamp (t : Text) : Except Error Value :=
  match Tag.timestamp? (Tag.withoutFinalFeed t) with
  | none => .error .notATimestamp
  | some s =>
      match Date.of? (natOf s.year) (natOf s.month) (natOf s.day), s.time with
      | none, _ => .error .badValue
      | some date, none => .ok (.date date)
      | some date, some (hour, minute, second, fraction) =>
          match Moment.of? date (natOf hour) (natOf minute) (natOf second) (microseconds fraction)
              (s.zone.map offsetOf) with
          | some m => .ok (.moment m)
          | none => .error .badValue

end ComponentDocs.Yaml.Scalar
