import ComponentDocs.Decimal.Reading
import ComponentDocs.Json.Basic
import ComponentDocs.Text.Digit

/-!
# Reading JSON

`Json.parse` reads a JSON text. Besides the numbers of the standard it knows the words for infinity
and for no number. When the text is not JSON, the result tells the offset of the character at which
that shows. Integers have a limited number of digits, and arrays and objects a limited depth.
-/

set_option autoImplicit false

namespace ComponentDocs.Json

/-- Why a text is not read. -/
inductive Error where
  /-- The octets of the text encode no text. -/
  | notText
  /-- The text is not JSON; the offset tells where this shows. -/
  | malformed (offset : Nat)
  /-- An integer has too many digits. -/
  | tooManyDigits
  /-- Arrays and objects stand inside each other beyond the depth that is followed. -/
  | tooDeep
deriving DecidableEq

/-- The most arrays and objects that may stand inside each other. -/
def maxDepth : Nat := 950

/-- The rest of a text and its offset. -/
structure Place where
  rest : Text
  offset : Nat

/-- A step that reads, or fails. -/
abbrev Reading := StateT Place (Except Error)

/-- Takes the given number of characters. -/
def skip (n : Nat) : Reading Unit :=
  modify fun p => ⟨p.rest.drop n, p.offset + n⟩

/-- Takes spaces, tabulators and line ends. -/
def skipBlanks : Reading Unit := do
  let run := (← get).rest.takeWhile fun (c : CodePoint) =>
    c == ' ' || c == '\t' || c == '\n' || c == '\r'
  skip run.length

/-- The next character, if there is one. -/
def next? : Reading (Option CodePoint) := do return (← get).rest.head?

/-- Takes the given character or fails in front of it. -/
def expect (c : CodePoint) : Reading Unit := do
  let p ← get
  if p.rest.head? == some c then skip 1 else throw (.malformed p.offset)

/-! ## Strings -/

/-- The number that four hexadecimal digits spell. -/
def hexOf? (t : Text) : Option Nat :=
  match t.mapM fun c => (Text.asciiDigitValue? c).filter (· < 16) with
  | some [a, b, c, d] => some (((a * 16 + b) * 16 + c) * 16 + d)
  | _ => none

/-- The character of an escape of one letter. -/
def simpleEscape? (c : CodePoint) : Option CodePoint :=
  match c with
  | '"' => some '"'
  | '\\' => some '\\'
  | '/' => some '/'
  | 'b' => some (CodePoint.ofNat 8)
  | 'f' => some (CodePoint.ofNat 12)
  | 'n' => some '\n'
  | 'r' => some '\r'
  | 't' => some '\t'
  | _ => none

/-- The four digits of an escape by number, which may not end the text. -/
def readHex : Reading Nat := do
  let p ← get
  if p.rest.length ≤ 4 then throw (.malformed (p.offset - 1))
  match hexOf? (p.rest.take 4) with
  | none => throw (.malformed (p.offset - 1))
  | some n => skip 4; return n

/-- The code point of an escape by number, whose digits follow. Two escapes that form a surrogate
pair stand for one character, and half a pair stands for itself. -/
def readNumberEscape : Reading CodePoint := do
  let n ← readHex
  if 0xd800 ≤ n && n ≤ 0xdbff then
    let p ← get
    match p.rest with
    | '\\' :: 'u' :: digits =>
        if digits.length ≤ 4 then return CodePoint.ofNat n
        match hexOf? (digits.take 4) with
        | none => throw (.malformed (p.offset + 1))
        | some low =>
            if 0xdc00 ≤ low && low ≤ 0xdfff then
              skip 6
              return CodePoint.ofNat (0x10000 + (n - 0xd800) * 1024 + (low - 0xdc00))
            else return CodePoint.ofNat n
    | _ => return CodePoint.ofNat n
  else return CodePoint.ofNat n

/-- The rest of a string that began at an offset, through its closing quote. -/
def readStringFrom (start : Nat) : Nat → Reading Text
  | 0 => throw (.malformed start)
  | fuel + 1 => do
      let p ← get
      match p.rest with
      | [] => throw (.malformed start)
      | '"' :: _ => skip 1; return []
      | ['\\'] => throw (.malformed start)
      | '\\' :: 'u' :: _ =>
          skip 2
          let c ← readNumberEscape
          return c :: (← readStringFrom start fuel)
      | '\\' :: e :: _ =>
          match simpleEscape? e with
          | none => throw (.malformed p.offset)
          | some c =>
              skip 2
              return c :: (← readStringFrom start fuel)
      | c :: _ =>
          if c.toNat < 32 then throw (.malformed p.offset)
          skip 1
          return c :: (← readStringFrom start fuel)

/-- A string, from its opening quote on. -/
def readString : Reading Text := do
  let p ← get
  skip 1
  readStringFrom p.offset (p.rest.length + 1)

/-! ## Numbers and words -/

/-- The digits of a whole number: a zero alone, or digits that do not begin with one. -/
def wholeDigits : Text → Text
  | '0' :: _ => ['0']
  | t => t.takeWhile CodePoint.isDigit

/-- The fraction at the front of a text, with its point; empty if there is none. -/
def fractionOf : Text → Text
  | '.' :: rest =>
      let digits := rest.takeWhile CodePoint.isDigit
      if digits.isEmpty then [] else '.' :: digits
  | _ => []

/-- The exponent at the front of a text, with its letter and sign; empty if there is none. -/
def exponentOf : Text → Text
  | e :: rest =>
      if e == 'e' || e == 'E' then
        let sign : Text := (rest.take 1).filter fun c => c == '+' || c == '-'
        let digits := (rest.drop sign.length).takeWhile CodePoint.isDigit
        if digits.isEmpty then [] else e :: sign ++ digits
      else []
  | [] => []

/-- The number at the front of a text; empty if there is none. -/
def numberOf (t : Text) : Text :=
  let sign : Text := (t.take 1).filter (· == '-')
  let rest := t.drop sign.length
  let whole := wholeDigits rest
  if whole.isEmpty then []
  else
    let rest := rest.drop whole.length
    let fraction := fractionOf rest
    sign ++ whole ++ fraction ++ exponentOf (rest.drop fraction.length)

/-- The words of JSON and the values that they stand for. -/
def words : List (Text × Json) :=
  [("null", null), ("true", bool true), ("false", bool false),
    ("NaN", number "NaN"), ("Infinity", number "Infinity"),
    ("-Infinity", number "-Infinity")]

/-- Whether a number has neither a fraction nor an exponent. -/
def isInteger (number : Text) : Bool :=
  number.all fun c => c.isDigit || c == '-'

/-- Whether a number is an integer with too many digits. -/
def isOversized (number : Text) : Bool :=
  isInteger number && Decimal.maxDigits < (number.filter CodePoint.isDigit).length

/-- A word or a number. -/
def readPlain : Reading Json := do
  let p ← get
  match words.find? fun w => w.1.isPrefixOf p.rest with
  | some (w, v) => skip w.length; return v
  | none =>
      let n := numberOf p.rest
      if n.isEmpty then throw (.malformed p.offset)
      if isOversized n then throw .tooManyDigits
      skip n.length
      return number n

/-! ## Values -/

mutual

/-- A value inside of as many arrays and objects as the first argument says. -/
def readValue (depth : Nat) : Nat → Reading Json
  | 0 => do throw (.malformed (← get).offset)
  | fuel + 1 => do
      match ← next? with
      | some '"' => return string (← readString)
      | some '[' =>
          if maxDepth ≤ depth then throw .tooDeep
          skip 1
          skipBlanks
          if (← next?) == some ']' then skip 1; return array []
          return array (← readItems (depth + 1) fuel)
      | some '\x7b' =>
          if maxDepth ≤ depth then throw .tooDeep
          skip 1
          skipBlanks
          if (← next?) == some '\x7d' then skip 1; return object []
          return object (← readMembers (depth + 1) fuel)
      | _ => readPlain

/-- The items of an array, through its closing bracket. -/
def readItems (depth : Nat) : Nat → Reading (List Json)
  | 0 => do throw (.malformed (← get).offset)
  | fuel + 1 => do
      let v ← readValue depth fuel
      skipBlanks
      if (← next?) == some ']' then skip 1; return [v]
      expect ','
      skipBlanks
      return v :: (← readItems depth fuel)

/-- The members of an object, through its closing bracket. -/
def readMembers (depth : Nat) : Nat → Reading (List (Text × Json))
  | 0 => do throw (.malformed (← get).offset)
  | fuel + 1 => do
      if (← next?) != some '"' then throw (.malformed (← get).offset)
      let k ← readString
      skipBlanks
      expect ':'
      skipBlanks
      let v ← readValue depth fuel
      skipBlanks
      if (← next?) == some '\x7d' then skip 1; return [(k, v)]
      expect ','
      skipBlanks
      return (k, v) :: (← readMembers depth fuel)

end

/-- A value with nothing but blanks around it. -/
def readText (fuel : Nat) : Reading Json := do
  skipBlanks
  let v ← readValue 0 fuel
  skipBlanks
  let p ← get
  if p.rest.isEmpty then return v else throw (.malformed p.offset)

/-- Whether a number is neither infinite nor a word for what is no number. -/
def isFiniteNumber (number : Text) : Bool :=
  isInteger number || ((Decimal.float? number).map Float.isFinite).getD false

mutual

/-- Whether all numbers in a value are finite. -/
def isFinite : Json → Bool
  | number text => isFiniteNumber text
  | array items => areFinite items
  | object members => membersAreFinite members
  | _ => true

/-- Whether all numbers in several values are finite. -/
def areFinite : List Json → Bool
  | [] => true
  | v :: rest => isFinite v && areFinite rest

/-- Whether all numbers in the members of an object are finite. -/
def membersAreFinite : List (Text × Json) → Bool
  | [] => true
  | (_, v) :: rest => isFinite v && membersAreFinite rest

end

/-- The JSON value of a text. -/
def parse (t : Text) : Except Error Json :=
  (readText (2 * t.length + 2)).run' ⟨t, 0⟩

end ComponentDocs.Json
