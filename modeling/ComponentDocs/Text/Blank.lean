import ComponentDocs.Text.Basic

/-!
# Blank characters

The blank characters are the spaces, the tabulators, the line and paragraph terminators and the four
information separators. Trimming and splitting into words use this class; the front matter and the
line structure use narrower ones of their own.
-/

set_option autoImplicit false

namespace ComponentDocs.Text

/-- Whether a character is white space of any script. -/
def isBlank (c : CodePoint) : Bool :=
  let n := c.toNat
  (9 ≤ n && n ≤ 13) || (28 ≤ n && n ≤ 32) || n == 0x85 || n == 0xa0 || n == 0x1680 ||
    (0x2000 ≤ n && n ≤ 0x200a) || n == 0x2028 || n == 0x2029 || n == 0x202f || n == 0x205f ||
    n == 0x3000

/-- The text without blank characters at its ends. -/
def strip (t : Text) : Text :=
  t.trim isBlank

/-- Whether a text has no character other than blank ones. -/
def isBlankText (t : Text) : Bool :=
  t.all isBlank

/-- The maximal runs of characters that are not blank, in order. -/
def words (t : Text) : List Text :=
  (t.pieces isBlank).filter fun w => !w.isEmpty

end ComponentDocs.Text
