import ComponentDocs.Json.Reading
import ComponentDocs.Text.Utf8

/-!
# JSON texts as octets

A JSON text travels as octets: in UTF-8, or in units of two or of four octets, of which either the
first or the last weighs most. A mark in front tells which of these it is. Without a mark the zeros
among the first octets tell it, since a JSON text begins with characters whose numbers fit an octet.
Halves of surrogate pairs that stand alone are accepted.
-/

set_option autoImplicit false

namespace ComponentDocs.Json

/-- How a text is stored; `bigEndian` says that the first octet of a unit weighs most. -/
inductive Encoding where
  | utf8
  | utf16 (bigEndian : Bool)
  | utf32 (bigEndian : Bool)
deriving DecidableEq

namespace Encoding

/-- The marks that tell the encoding of what follows. -/
def marks : List (List UInt8 × Encoding) :=
  [([0x00, 0x00, 0xfe, 0xff], utf32 true), ([0xff, 0xfe, 0x00, 0x00], utf32 false),
    ([0xfe, 0xff], utf16 true), ([0xff, 0xfe], utf16 false), ([0xef, 0xbb, 0xbf], utf8)]

/-- The encoding that the zeros among the first octets tell. -/
def ofZeros : List UInt8 → Encoding
  | a :: b :: c :: d :: _ =>
      if a = 0 then (if b = 0 then utf32 true else utf16 true)
      else if b = 0 then (if c = 0 ∧ d = 0 then utf32 false else utf16 false)
      else utf8
  | [a, b] => if a = 0 then utf16 true else if b = 0 then utf16 false else utf8
  | _ => utf8

/-- The encoding of octets, and the octets behind the mark that tells it. -/
def detect (octets : List UInt8) : Encoding × List UInt8 :=
  match marks.find? fun m => m.1.isPrefixOf octets with
  | some (mark, encoding) => (encoding, octets.drop mark.length)
  | none => (ofZeros octets, octets)

/-- The number that the octets of a unit spell. -/
def unit (bigEndian : Bool) (octets : List UInt8) : Nat :=
  (if bigEndian then octets else octets.reverse).foldl (fun n b => n * 256 + b.toNat) 0

/-- The units of two octets. -/
def pairs? (bigEndian : Bool) : List UInt8 → Option (List Nat)
  | [] => some []
  | a :: b :: rest => (pairs? bigEndian rest).map (unit bigEndian [a, b] :: ·)
  | [_] => none

/-- The units of four octets. -/
def quadruples? (bigEndian : Bool) : List UInt8 → Option (List Nat)
  | [] => some []
  | a :: b :: c :: d :: rest => (quadruples? bigEndian rest).map (unit bigEndian [a, b, c, d] :: ·)
  | _ => none

/-- The text of units that are code points or halves of surrogate pairs, which are joined. -/
def joinPairs : List Nat → Text
  | high :: low :: rest =>
      if 0xd800 ≤ high ∧ high < 0xdc00 ∧ 0xdc00 ≤ low ∧ low < 0xe000 then
        CodePoint.ofNat (0x10000 + (high - 0xd800) * 1024 + (low - 0xdc00)) :: joinPairs rest
      else CodePoint.ofNat high :: joinPairs (low :: rest)
  | [n] => [CodePoint.ofNat n]
  | [] => []

/-- The text that octets without a mark encode. -/
def decode? : Encoding → List UInt8 → Option Text
  | utf8, octets => Text.decodeUtf8? true octets
  | utf16 bigEndian, octets => (pairs? bigEndian octets).map joinPairs
  | utf32 bigEndian, octets =>
      ((quadruples? bigEndian octets).filter fun ns => ns.all (· < 0x110000)).map fun ns =>
        ns.map CodePoint.ofNat

end Encoding

/-- The text that the octets of a JSON text encode. -/
def textOf? (octets : List UInt8) : Option Text :=
  let (encoding, rest) := Encoding.detect octets
  encoding.decode? rest

/-- The JSON value of a text that is given as octets. -/
def parseOctets (octets : List UInt8) : Except Error Json :=
  match textOf? octets with
  | none => .error .notText
  | some t => parse t

end ComponentDocs.Json
