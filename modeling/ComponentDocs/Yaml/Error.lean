import ComponentDocs.Text.Basic

/-!
# Why a document cannot be read

Either its text is not well formed, or one of its scalars has a type of which it spells no value, or
a limit is exceeded. The last two kinds name what is wrong.
-/

set_option autoImplicit false

namespace ComponentDocs.Yaml

/-- The reasons why a document cannot be read. -/
inductive Error where
  /-- The text breaks a rule of the notation, or uses a tag or an anchor that is not known. -/
  | malformed
  /-- A number, a date or a character number is out of range or misspelled. -/
  | badValue
  /-- A scalar tagged as a truth value is none of the words for it. -/
  | unknownTruthWord
  /-- A scalar tagged as a number has no digits at all. -/
  | emptyNumber
  /-- A scalar tagged as a point in time has another form. -/
  | notATimestamp
  /-- A point in time is spelled by something other than a scalar. -/
  | notAScalar
  /-- The number of an escaped character does not fit into a machine word. -/
  | oversizedCharacter
  /-- A digit in base sixty has a place whose worth is no floating-point number. -/
  | oversizedNumber
  /-- An integer that is needed as text has too many digits to be written. -/
  | tooManyDigits
  /-- Collections stand inside each other beyond the depth that is followed. -/
  | tooDeep
deriving DecidableEq

/-- The reason in words. -/
def Error.message : Error → Text
  | malformed => "the text is not well formed"
  | badValue => "a scalar spells no value of its type"
  | unknownTruthWord => "a truth value is none of the words for it"
  | emptyNumber => "a number has no digits"
  | notATimestamp => "a point in time has another form"
  | notAScalar => "a point in time is not a scalar"
  | oversizedCharacter => "the number of a character is too large"
  | oversizedNumber => "a number in base sixty has too many places"
  | tooManyDigits => "an integer has too many digits"
  | tooDeep => "the collections are nested too deeply"

end ComponentDocs.Yaml
