import ComponentDocs.Decimal.Shortest

/-!
# The size of decimal integers

Integers are read and written in base ten up to a number of digits; larger ones can be held and
computed with, and read in bases that are powers of two.
-/

set_option autoImplicit false

namespace ComponentDocs.Decimal

/-- The most digits that an integer may have in base ten. -/
def maxDigits : Nat := 4300

/-- Whether an integer has few enough digits to be written in base ten. -/
def isWritable (n : Int) : Bool :=
  n.natAbs < powerOfTen maxDigits

end ComponentDocs.Decimal
