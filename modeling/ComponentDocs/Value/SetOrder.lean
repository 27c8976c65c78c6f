import ComponentDocs.Value.Basic

/-!
# The order of a set

A set keeps its members in the cells of a table, whose size is a power of two. The hash of a member
says where to look for a free cell, and the members come out in the order of their cells. Numbers that
are the same key have the same hash. What is no number has no fixed hash; a set with such a member
keeps its members in the order in which they came.
-/

set_option autoImplicit false

namespace ComponentDocs.Value

/-! ## Hashes -/

/-- The prime modulo which numbers are hashed. -/
def hashModulus : Nat :=
  Decimal.powerOfTwo 61 - 1

/-- A hash as an unsigned word. A negative hash counts from the end of the range, and minus one, which
is no hash, gives way to minus two. -/
def signedHash (negative : Bool) (magnitude : Nat) : Nat :=
  if !negative || magnitude = 0 then magnitude
  else Decimal.powerOfTwo 64 - max 2 magnitude

/-- The hash of an integer. -/
def hashOfInt (n : Int) : Nat :=
  signedHash (n < 0) (n.natAbs % hashModulus)

/-- The hash of a binary fraction without its sign. Powers of two repeat after sixty-one. -/
def hashOfBinary (b : Decimal.Binary) : Nat :=
  b.mantissa * Decimal.powerOfTwo (b.exponent.emod 61).toNat % hashModulus

/-- The hash of a floating-point number, unless it is no number. -/
def hashOfFloat? (x : Float) : Option Nat :=
  if x.isNaN then none
  else if x.isInf then some (signedHash (Decimal.isNegative x) 314159)
  else some (signedHash (Decimal.isNegative x) (hashOfBinary (Decimal.binaryOfFloat x)))

/-- The hash of a value, if it is a number. -/
def hash? : Value → Option Nat
  | bool b => some (if b then 1 else 0)
  | int n => some (hashOfInt n)
  | float x => hashOfFloat? x
  | _ => none

/-- The hashes of several values, if all are numbers. -/
def hashes? : List Value → Option (List Nat)
  | [] => some []
  | v :: rest => do
      let h ← hash? v
      return h :: (← hashes? rest)

/-! ## Cells -/

/-- The number of cells for a number of members: eight for at most four, and otherwise the least power
of two that is more than twice as many. -/
def tableSize (members : Nat) : Nat :=
  if members ≤ 4 then 8 else Decimal.powerOfTwo (Nat.log2 (2 * members) + 1)

/-- The cells that are tried together: a cell and the nine behind it, if the table has them all. -/
def neighbours (size cell : Nat) : List Nat :=
  if cell + 9 < size then List.range' cell 10 else [cell]

/-- The first free cell on the way from a cell; what is left of the hash picks the next cell. -/
def freeCell (size : Nat) (taken : List Nat) : Nat → Nat → Nat → Nat
  | 0, cell, _ => cell
  | fuel + 1, cell, hash =>
      match (neighbours size cell).find? fun c => !taken.contains c with
      | some c => c
      | none => freeCell size taken fuel ((cell * 5 + 1 + hash / 32) % size) (hash / 32)

/-- The cells for several hashes, in order. Thirteen steps use up a hash, and from then on every cell
is met within as many steps as there are cells. -/
def cellsFor (size : Nat) (taken : List Nat) : List Nat → List Nat
  | [] => []
  | hash :: rest =>
      let cell := freeCell size taken (size + 13) (hash % size) hash
      cell :: cellsFor size (cell :: taken) rest

/-- The members of a set, which are given as they came, in the order of the set. -/
def inSetOrder (members : List Value) : List Value :=
  match hashes? members with
  | none => members
  | some hashes =>
      let cells := cellsFor (tableSize members.length) [] hashes
      ((cells.zip members).mergeSort fun a b => a.1 ≤ b.1).map Prod.snd

end ComponentDocs.Value
