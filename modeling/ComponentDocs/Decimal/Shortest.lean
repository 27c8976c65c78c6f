import ComponentDocs.Text.Basic

/-!
# The shortest decimal of a binary fraction

A finite floating-point number is `m * 2 ^ q`. The reals that round to it form an interval, whose
ends belong to it exactly when `m` is even. `shortest` finds the fewest decimal digits whose value
lies in that interval, and among those the value nearest to the number.
-/

set_option autoImplicit false

namespace ComponentDocs.Decimal

/-- A power of two. -/
def powerOfTwo (n : Nat) : Nat :=
  Nat.pow 2 n

/-- A power of ten. -/
def powerOfTen (n : Nat) : Nat :=
  Nat.pow 10 n

/-- A positive binary fraction `mantissa * 2 ^ exponent`. -/
structure Binary where
  mantissa : Nat
  exponent : Int
deriving DecidableEq

/-- The binary fraction of the magnitude of a finite floating-point number. -/
def binaryOfFloat (x : Float) : Binary :=
  let bits := x.toBits.toNat
  let field : Nat := bits / powerOfTwo 52 % powerOfTwo 11
  let fraction : Nat := bits % powerOfTwo 52
  if field = 0 then ⟨fraction, -1074⟩ else ⟨fraction + powerOfTwo 52, (field : Int) - 1075⟩

/-- Whether the sign of a floating-point number is negative, minus zero included. -/
def isNegative (x : Float) : Bool :=
  x.toBits.toNat / powerOfTwo 63 == 1

/-- The integer that a finite floating-point number stands for, if it is one. -/
def integerOfFloat? (x : Float) : Option Int :=
  if x.isFinite then
    let b := binaryOfFloat x
    let sign : Int := if isNegative x then -1 else 1
    if 0 ≤ b.exponent then some (sign * (b.mantissa * powerOfTwo b.exponent.toNat : Nat))
    else if b.mantissa % powerOfTwo (-b.exponent).toNat = 0 then
      some (sign * (b.mantissa / powerOfTwo (-b.exponent).toNat : Nat))
    else none
  else none

/-- A positive fraction with its neighbourhood of equal rounding, over one denominator. -/
structure Interval where
  low : Nat
  value : Nat
  high : Nat
  denominator : Nat
  closed : Bool

/-- The interval of the reals that round to a binary fraction. Below a power of two the neighbour is
half as far away as above it. -/
def interval (b : Binary) : Interval :=
  let down := if b.mantissa = powerOfTwo 52 ∧ b.exponent ≠ -1074 then 1 else 2
  let shift := b.exponent - 2
  let up : Nat := powerOfTwo shift.toNat
  ⟨(4 * b.mantissa - down) * up, 4 * b.mantissa * up, (4 * b.mantissa + 2) * up,
    powerOfTwo (-shift).toNat, b.mantissa % 2 == 0⟩

/-- Whether `n / d` lies in the interval. -/
def Interval.has (i : Interval) (n d : Nat) : Bool :=
  let x := n * i.denominator
  if i.closed then i.low * d ≤ x && x ≤ i.high * d else i.low * d < x && x < i.high * d

/-- The position of the first digit of a fraction below one, searched for downwards. -/
def leadingBelowOne (value denominator : Nat) : Nat → Nat → Nat
  | 0, j => j
  | fuel + 1, j =>
      if denominator ≤ value * powerOfTen j then j else leadingBelowOne value denominator fuel (j + 1)

/-- The exponent of ten of the first digit of the value. -/
def leadingExponent (i : Interval) : Int :=
  if i.denominator ≤ i.value then ((Text.ofNat (i.value / i.denominator)).length : Int) - 1
  else -(leadingBelowOne i.value i.denominator 400 1 : Int)

/-- A decimal with the given number of digits in the interval, if one of the two neighbours of the
value on that grid lies in it; the nearer one first, and of two equally near ones the even. -/
def onGrid? (i : Interval) (leading : Int) (digits : Nat) : Option (Nat × Int) :=
  let unit := leading - (digits : Int) + 1
  let scaleUp : Nat := powerOfTen (-unit).toNat
  let scaleDown : Nat := powerOfTen unit.toNat
  let num := i.value * scaleUp
  let den := i.denominator * scaleDown
  let floor := num / den
  let rest := num % den
  let below := i.has (floor * scaleDown) scaleUp
  let above := i.has ((floor + 1) * scaleDown) scaleUp
  let nearerBelow := 2 * rest < den || (2 * rest == den && floor % 2 == 0)
  if below && (nearerBelow || !above) then some (floor, unit)
  else if above then some (floor + 1, unit)
  else none

/-- The first grid, of one digit, two digits and so on, that has a decimal in the interval. -/
def searchGrid (i : Interval) (leading : Int) : Nat → Nat → Nat × Int
  | 0, digits => (onGrid? i leading digits).getD (0, 0)
  | fuel + 1, digits =>
      (onGrid? i leading digits).getD (searchGrid i leading fuel (digits + 1))

/-- The digits of the shortest decimal that reads back as a positive binary fraction, and the
position of the decimal point relative to the first digit. -/
def shortest (b : Binary) : Text × Int :=
  let i := interval b
  let (coefficient, unit) := searchGrid i (leadingExponent i) 17 1
  let all := Text.ofNat coefficient
  (all.trimRight (· == '0'), unit + all.length)

/-- A run of zeros. -/
def zeros (n : Nat) : Text :=
  List.replicate n '0'

/-- How floating-point numbers are spelled. -/
structure Spelling where
  /-- The least position of the decimal point, relative to the first digit, without an exponent. -/
  leastPoint : Int
  /-- The least number of digits of an exponent. -/
  exponentWidth : Nat

/-- The text of a floating-point number: the fewest digits that read back, positional when the
decimal point falls at most sixteen places behind the start of the digits and not before the least
position, and otherwise with an exponent. -/
def spell (s : Spelling) (x : Float) : Text :=
  if x.isNaN then "nan"
  else
    let sign : Text := if isNegative x then ['-'] else []
    if x.isInf then sign ++ "inf"
    else if x == 0.0 then sign ++ "0.0"
    else
      let (digits, point) := shortest (binaryOfFloat x)
      let size : Int := digits.length
      sign ++
        if s.leastPoint ≤ point && point ≤ 16 then
          if point ≤ 0 then "0." ++ zeros (-point).toNat ++ digits
          else if size ≤ point then
            digits ++ zeros (point - size).toNat ++ ".0"
          else digits.take point.toNat ++ "." ++ digits.drop point.toNat
        else
          let exponent := point - 1
          digits.take 1 ++ (if digits.length = 1 then [] else "." ++ digits.drop 1 : Text) ++
            (if exponent < 0 then "e-" else "e+") ++
              Text.ofNatPadded s.exponentWidth exponent.natAbs

/-- The text of a floating-point number for reading: positional from the fourth place behind the
decimal point on, and with at least two digits in an exponent. -/
def ofFloat (x : Float) : Text :=
  spell ⟨-3, 2⟩ x

end ComponentDocs.Decimal
