/-!
# Code points

A text consists of code points: characters, and halves of surrogate pairs. A half stands for no
character and has no encoding, but an escape can spell one, and a text carries it like a character.
Characters and strings are used as code points and texts without further ado.

`ofNat_toNat` says that a code point is known by its number.
-/

set_option autoImplicit false

namespace ComponentDocs

/-- A character, or half of a surrogate pair. -/
inductive CodePoint where
  | char (c : Char)
  | half (n : Fin 2048)
deriving DecidableEq

namespace CodePoint

instance : Coe Char CodePoint := ⟨char⟩

instance : Inhabited CodePoint := ⟨char default⟩

/-- The number of a code point; the halves take the place between the characters below them and
those above. -/
def toNat : CodePoint → Nat
  | char c => c.toNat
  | half n => 0xd800 + n.val

/-- The code point with a number. -/
def ofNat (n : Nat) : CodePoint :=
  if h : 0xd800 ≤ n ∧ n < 0xe000 then half ⟨n - 0xd800, by omega⟩ else char (Char.ofNat n)

/-- The number of a character is not that of a half. -/
theorem not_half_of_char (c : Char) : ¬ (0xd800 ≤ c.toNat ∧ c.toNat < 0xe000) := by
  have h := c.valid
  simp only [UInt32.isValidChar, Nat.isValidChar] at h
  have e : c.toNat = c.val.toNat := rfl
  omega

/-- A code point is known by its number. -/
@[simp] theorem ofNat_toNat (c : CodePoint) : ofNat c.toNat = c := by
  cases c with
  | char c => simp [ofNat, toNat, not_half_of_char c]
  | half n =>
      have h : 0xd800 ≤ 0xd800 + n.val ∧ 0xd800 + n.val < 0xe000 := by omega
      simp [ofNat, toNat, h]

instance : LT CodePoint := ⟨fun a b => a.toNat < b.toNat⟩

instance : LE CodePoint := ⟨fun a b => a.toNat ≤ b.toNat⟩

instance (a b : CodePoint) : Decidable (a < b) :=
  inferInstanceAs (Decidable (a.toNat < b.toNat))

instance (a b : CodePoint) : Decidable (a ≤ b) :=
  inferInstanceAs (Decidable (a.toNat ≤ b.toNat))

/-- Whether a code point is half of a surrogate pair. -/
def isHalf : CodePoint → Bool
  | char _ => false
  | half _ => true

/-- Whether a code point is an ASCII digit. -/
def isDigit : CodePoint → Bool
  | char c => c.isDigit
  | half _ => false

/-- Whether a code point is an ASCII letter or digit. -/
def isAlphanum : CodePoint → Bool
  | char c => c.isAlphanum
  | half _ => false

/-- A code point with an ASCII capital letter made small. -/
def toLower : CodePoint → CodePoint
  | char c => char c.toLower
  | half n => half n

/-- A code point with an ASCII small letter made capital. -/
def toUpper : CodePoint → CodePoint
  | char c => char c.toUpper
  | half n => half n

end CodePoint

/-- A text is the list of its code points. -/
abbrev Text := List CodePoint

namespace Text

/-- The text of a string. -/
def ofString (s : String) : Text :=
  s.toList.map .char

instance : Coe String Text := ⟨ofString⟩

/-- The string of a text, with the replacement character for the halves of surrogate pairs. -/
def toString (t : Text) : String :=
  String.ofList (t.map fun
    | .char c => c
    | .half _ => Char.ofNat 0xfffd)

end Text

end ComponentDocs
