import ComponentDocs.Text.Basic

/-!
# Texts as octets

A text is stored as octets in UTF-8. `decodeUtf8?` accepts only the shortest encoding of each code
point, and `ofUtf8?` only characters. `universalNewlines` is how a stored text is read line by line: every line ends in
a single line feed, however the file spells it.
-/

set_option autoImplicit false

namespace ComponentDocs.Text

/-- The value of a continuation octet. -/
def continuation? (b : UInt8) : Option Nat :=
  if 0x80 ≤ b ∧ b < 0xc0 then some (b.toNat - 0x80) else none

/-- The code point with a number that its encoding is meant for: one that no shorter encoding has, and
a half only if halves are allowed. -/
def decoded? (halves : Bool) (least n : Nat) : Option CodePoint :=
  if least ≤ n ∧ n < 0x110000 ∧ (halves ∨ !(CodePoint.ofNat n).isHalf) then some (CodePoint.ofNat n)
  else none

/-- The text that a list of octets encodes, with halves of surrogate pairs if they are allowed. -/
def decodeUtf8? (halves : Bool) : List UInt8 → Option Text
  | [] => some []
  | a :: rest =>
      if a < 0x80 then (decodeUtf8? halves rest).map (CodePoint.ofNat a.toNat :: ·)
      else if a < 0xc0 then none
      else if a < 0xe0 then
        match rest with
        | b :: rest => do
            let c ← decoded? halves 0x80 ((a.toNat - 0xc0) * 64 + (← continuation? b))
            return c :: (← decodeUtf8? halves rest)
        | _ => none
      else if a < 0xf0 then
        match rest with
        | b :: c :: rest => do
            let n := ((a.toNat - 0xe0) * 64 + (← continuation? b)) * 64 + (← continuation? c)
            return (← decoded? halves 0x800 n) :: (← decodeUtf8? halves rest)
        | _ => none
      else if a < 0xf8 then
        match rest with
        | b :: c :: d :: rest => do
            let n := (((a.toNat - 0xf0) * 64 + (← continuation? b)) * 64 + (← continuation? c)) * 64 +
              (← continuation? d)
            return (← decoded? halves 0x10000 n) :: (← decodeUtf8? halves rest)
        | _ => none
      else none

/-- The text that a list of octets encodes. -/
def ofUtf8? : List UInt8 → Option Text :=
  decodeUtf8? false

/-- The octets of a text; the half of a surrogate pair has none. -/
def toUtf8? : Text → Option (List UInt8)
  | [] => some []
  | .char c :: rest => (toUtf8? rest).map (String.utf8EncodeChar c ++ ·)
  | .half _ :: _ => none

/-- The text with a single line feed for each carriage return and for each carriage return with a
line feed behind it. -/
def universalNewlines : Text → Text
  | [] => []
  | '\r' :: '\n' :: rest => '\n' :: universalNewlines rest
  | c :: rest => (if c = '\r' then '\n' else c) :: universalNewlines rest

end ComponentDocs.Text
