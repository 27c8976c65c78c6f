import ComponentDocs.Text.Basic
import ComponentDocs.Text.Printable

/-!
# Quoted literals

A text or a string of octets written as a literal: in single quotes, or in double quotes when that
saves escaping a single quote; backslashes, the quote in use, tabulators, line feeds and carriage
returns are escaped, and what is not printable is written by its number.
-/

set_option autoImplicit false

namespace ComponentDocs.Text

/-- One hexadecimal digit in lower case. -/
def hexDigit (n : Nat) : CodePoint :=
  if n < 10 then CodePoint.ofNat (48 + n) else CodePoint.ofNat (87 + n)

/-- A number as the given count of hexadecimal digits. -/
def hex : Nat → Nat → Text
  | 0, _ => []
  | width + 1, n => hex width (n / 16) ++ [hexDigit (n % 16)]

/-- The quote around a literal: double when the content has single quotes and no double ones. -/
def quoteFor (hasSingle hasDouble : Bool) : CodePoint :=
  if hasSingle && !hasDouble then '"' else '\''

/-- The escape of a character by its number. -/
def numberEscape (n : Nat) : Text :=
  if n < 0x100 then "\\x" ++ hex 2 n
  else if n < 0x10000 then "\\u" ++ hex 4 n
  else "\\U" ++ hex 8 n

/-- One character of a literal between the given quotes. -/
def escapeChar (quote : CodePoint) (printable : Bool) (c : CodePoint) : Text :=
  if c = quote || c = '\\' then ['\\', c]
  else if c = '\t' then "\\t"
  else if c = '\n' then "\\n"
  else if c = '\r' then "\\r"
  else if printable then [c]
  else numberEscape c.toNat

/-- A text as a literal. -/
def quoted (t : Text) : Text :=
  let quote := quoteFor (t.contains '\'') (t.contains '"')
  quote :: t.flatMap (fun c => escapeChar quote (isPrintable c) c) ++ [quote]

/-- A string of octets as a literal, marked by a leading letter. -/
def quotedBytes (bytes : List UInt8) : Text :=
  let chars := bytes.map fun b => CodePoint.ofNat b.toNat
  let quote := quoteFor (chars.contains '\'') (chars.contains '"')
  "b" ++ quote ::
    chars.flatMap (fun c => escapeChar quote (32 ≤ c.toNat && c.toNat < 127) c) ++ [quote]

end ComponentDocs.Text
