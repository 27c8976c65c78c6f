import ComponentDocs.Text.Basic

/-!
# Character entities

`escape` makes a text safe inside a quoted attribute: ampersands, angle brackets and both quotes
become entities. `unescape` reads the entities back in one pass from left to right, and undoes
`escape` (`unescape_escape`).
-/

set_option autoImplicit false

namespace ComponentDocs.Text

/-- The entity of a character that may not stand in a quoted attribute, and the character otherwise. -/
def entity (c : CodePoint) : Text :=
  if c = '&' then "&amp;"
  else if c = '<' then "&lt;"
  else if c = '>' then "&gt;"
  else if c = '"' then "&quot;"
  else if c = '\'' then "&#x27;"
  else [c]

/-- The text with entities in place of the characters that have one. -/
def escape (t : Text) : Text :=
  t.flatMap entity

/-- The text with every entity read back as its character. -/
def unescape : Text → Text
  | [] => []
  | '&' :: 'a' :: 'm' :: 'p' :: ';' :: rest => '&' :: unescape rest
  | '&' :: 'l' :: 't' :: ';' :: rest => '<' :: unescape rest
  | '&' :: 'g' :: 't' :: ';' :: rest => '>' :: unescape rest
  | '&' :: 'q' :: 'u' :: 'o' :: 't' :: ';' :: rest => '"' :: unescape rest
  | '&' :: '#' :: 'x' :: '2' :: '7' :: ';' :: rest => '\'' :: unescape rest
  | c :: rest => c :: unescape rest

/-- Reading back undoes escaping. -/
@[simp] theorem unescape_escape (t : Text) : unescape (escape t) = t := by
  induction t with
  | nil => rfl
  | cons c rest ih =>
      have step : escape (c :: rest) = entity c ++ escape rest := rfl
      rw [step, entity]
      split
      case isTrue h => simp [h, ofString, unescape, ih]
      case isFalse hAmp =>
        repeat' split
        all_goals simp_all [ofString, unescape]

end ComponentDocs.Text
