import ComponentDocs.Text.CodePoint

/-!
# Texts

A text is a list, so that every function below is a plain recursion on it. The module holds the
general operations: trimming at either end, cutting at characters and at fixed strings, and joining.
-/

set_option autoImplicit false

namespace ComponentDocs

namespace Text

/-! ## Trimming -/

/-- Removes the longest run of characters in the class from the front. -/
def trimLeft (p : CodePoint → Bool) (t : Text) : Text :=
  t.dropWhile p

/-- Removes the longest run of characters in the class from the back. -/
def trimRight (p : CodePoint → Bool) (t : Text) : Text :=
  (t.reverse.dropWhile p).reverse

/-- Removes characters in the class from both ends. -/
def trim (p : CodePoint → Bool) (t : Text) : Text :=
  trimRight p (trimLeft p t)

/-- The run of characters in the class that `trimRight` removes. -/
def trailing (p : CodePoint → Bool) (t : Text) : Text :=
  (t.reverse.takeWhile p).reverse

/-- What `trimRight` keeps and what it removes make up the text. -/
theorem trimRight_append_trailing (p : CodePoint → Bool) (t : Text) :
    trimRight p t ++ trailing p t = t := by
  rw [trimRight, trailing, ← List.reverse_append, List.takeWhile_append_dropWhile,
    List.reverse_reverse]

/-! ## Cutting -/

/-- The pieces between the characters in the class, empty pieces included. -/
def pieces (p : CodePoint → Bool) : Text → List Text
  | [] => [[]]
  | c :: rest =>
      if p c then [] :: pieces p rest
      else
        match pieces p rest with
        | [] => [[c]]
        | first :: others => (c :: first) :: others

/-- Splits at the first occurrence of a character; the second part is `none` when there is none. -/
def cutAt (mark : CodePoint) : Text → Text × Option Text
  | [] => ([], none)
  | c :: rest =>
      if c = mark then ([], some rest)
      else ((c :: (cutAt mark rest).1), (cutAt mark rest).2)

/-- What follows a fixed beginning, if the text has it. -/
def after? (beginning : Text) (t : Text) : Option Text :=
  if beginning.isPrefixOf t then some (t.drop beginning.length) else none

/-- Whether the text holds the given one as a run of neighbouring characters. -/
def holds (part : Text) : Text → Bool
  | [] => part.isEmpty
  | c :: rest => part.isPrefixOf (c :: rest) || holds part rest

/-! ## Joining -/

/-- The parts in order, with the separator between neighbours. -/
def join (separator : Text) : List Text → Text
  | [] => []
  | [t] => t
  | t :: rest => t ++ separator ++ join separator rest

/-- Every occurrence of a character replaced by a text. -/
def replaceChar (mark : CodePoint) (substitute : Text) (t : Text) : Text :=
  t.flatMap fun c => if c = mark then substitute else [c]

/-- The decimal digits of a natural number. -/
def ofNat (n : Nat) : Text :=
  (Nat.toDigits 10 n).map .char

/-- The decimal digits of an integer, with a minus sign in front of a negative one. -/
def ofInt (n : Int) : Text :=
  if n < 0 then '-' :: ofNat n.natAbs else ofNat n.natAbs

/-- The decimal digits of a natural number, filled with zeros to a least width. -/
def ofNatPadded (width n : Nat) : Text :=
  (List.replicate (width - (ofNat n).length) '0' : Text) ++ ofNat n

/-- Lexicographic order by code point. -/
def before (s t : Text) : Bool :=
  s.lex t fun a b => a < b

end Text

end ComponentDocs
