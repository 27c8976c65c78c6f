import ComponentDocs.Text.Basic

/-!
# Names of files

A file system stores names as octets. A name is the text of its octets in UTF-8, where an octet that
encodes no text is carried as half of a surrogate pair; other halves cannot be stored. The character
with number zero ends a name, so it cannot be part of one, and a name has a limited number of octets.
-/

set_option autoImplicit false

namespace ComponentDocs.FileName

/-- What keeps a name from being stored. -/
inductive Fault where
  /-- The name holds half of a surrogate pair that stands for no octet. -/
  | notEncodable
  /-- The name holds the character with number zero. -/
  | holdsZero
deriving DecidableEq

/-- The number of octets of a text, unless it cannot be stored. The halves from U+DC80 to U+DCFF stand
for one octet each. -/
def size? : Text → Option Nat
  | [] => some 0
  | .char c :: rest => (size? rest).map (· + c.utf8Size)
  | .half n :: rest => if 0x480 ≤ n.val ∧ n.val < 0x500 then (size? rest).map (· + 1) else none

/-- What keeps a name from being stored, if anything does. -/
def fault? (name : Text) : Option Fault :=
  if (size? name).isNone then some .notEncodable
  else if name.contains (CodePoint.ofNat 0) then some .holdsZero
  else none

/-- The most octets of a name. -/
def maxSize : Nat := 255

/-- Whether a name has too many octets. -/
def isTooLong (name : Text) : Bool :=
  maxSize < (size? name).getD 0

end ComponentDocs.FileName
