import ComponentDocs.Decimal.Reading
import ComponentDocs.Text.Quoted

/-!
# The words of a command line

A command line is a list of words. A word is a switch, with or without a value joined to it, or an
operand. Long switches may be shortened as long as only one fits, short switches may be written
together behind one hyphen, and behind a word of two hyphens every word is an operand. Two hyphens
are not handed on, also where they are joined to a switch, which is then left with nothing.

`classify` tells what each word is, and `readWords` turns them into settings, operands and words that
fit nowhere. Operands are taken from one place only: the first run of them.
-/

set_option autoImplicit false

namespace ComponentDocs.CommandLine

/-- The switches of all programs. -/
inductive Switch where
  | help
  | verbose
  | config
  | indent
  | noMerge
  | host
  | portNumber
deriving DecidableEq

namespace Switch

/-- The names of a switch, a short one first. -/
def names : Switch → List Text
  | help => ["-h", "--help"]
  | verbose => ["-v", "--verbose"]
  | config => ["--config"]
  | indent => ["--indent"]
  | noMerge => ["--no-merge"]
  | host => ["--host"]
  | portNumber => ["--port"]

/-- Whether a switch has a value. -/
def takesValue : Switch → Bool
  | help | verbose | noMerge => false
  | config | indent | host | portNumber => true

/-- Whether the value of a switch is a number. -/
def isNumeric : Switch → Bool
  | indent | portNumber => true
  | _ => false

end Switch

/-- What a program understands, and what it tells about itself. -/
structure Program where
  title : Text
  switches : List Switch
  takesOperands : Bool
  usage : Text
  help : Text

/-- Why a command line leads to no command. -/
inductive Refusal where
  /-- The text about a program was asked for. -/
  | help (p : Program)
  /-- The words do not fit a program. -/
  | misuse (p : Program) (message : Text)

namespace Program

/-- The names of the switches of a program, each with its switch. -/
def namedSwitches (p : Program) : List (Text × Switch) :=
  p.switches.flatMap fun s => s.names.map fun n => (n, s)

/-- The refusal of a switch for a reason. -/
def refuse (p : Program) (s : Switch) (reason : Text) : Refusal :=
  .misuse p ("argument " ++ Text.join ['/'] s.names ++ ": " ++ reason)

end Program

/-! ## Classes of words -/

/-- What a word is. -/
inductive Word where
  | operand
  /-- The two hyphens behind which every word is an operand. -/
  | separator
  /-- A word that looks like a switch of which the program knows nothing. -/
  | unknown
  | switch (name : Text) (s : Switch) (joined : Option Text)
deriving DecidableEq

/-- Two hyphens. -/
def separator : Text := "--"

/-- Whether a name has one hyphen only. -/
def isShort : Text → Bool
  | '-' :: c :: _ => c != '-'
  | _ => false

/-- Whether a text is a negative number in digits, with or without a fraction. -/
def isNegativeNumber : Text → Bool
  | '-' :: rest =>
      let digit := fun c => (Text.decimalValue? c).isSome
      match rest.dropWhile digit with
      | [] => !rest.isEmpty
      | ['\n'] => rest.length != 1
      | '.' :: fraction =>
          match fraction.dropWhile digit with
          | [] => !fraction.isEmpty
          | ['\n'] => fraction.length != 1
          | _ => false
      | _ => false
  | _ => false

/-- The switches that a word may stand for, none of which it names in full. -/
def candidates (p : Program) (t : Text) : List (Text × Switch × Option Text) :=
  if isShort t then
    p.namedSwitches.filterMap fun (name, s) =>
      if name = t.take 2 then some (name, s, some (t.drop 2))
      else if t.isPrefixOf name then some (name, s, none)
      else none
  else
    let (beginning, joined) := t.cutAt '='
    (p.namedSwitches.filter fun (name, _) => beginning.isPrefixOf name).map fun (name, s) =>
      (name, s, joined)

/-- What a word that begins with a hyphen and names no switch in full is. -/
def classifyPartial (p : Program) (t : Text) : Except Refusal Word :=
  match candidates p t with
  | [] => .ok (if isNegativeNumber t || t.contains ' ' then .operand else .unknown)
  | [(name, s, joined)] => .ok (.switch name s joined)
  | several =>
      .error (.misuse p ("ambiguous option: " ++ t ++ " could match " ++
        Text.join ", " (several.map fun c => c.1)))

/-- What a word is, not counting the words in front of it. -/
def classify (p : Program) (t : Text) : Except Refusal Word :=
  match t with
  | '-' :: _ :: _ =>
      let (name, joined) := t.cutAt '='
      match p.namedSwitches.lookup t, p.namedSwitches.lookup name with
      | some s, _ => .ok (.switch t s none)
      | none, some s => .ok (.switch name s joined)
      | none, none => classifyPartial p t
  | _ => .ok .operand

/-- The words with their classes. -/
def classifyAll (p : Program) : List Text → Except Refusal (List (Text × Word))
  | [] => .ok []
  | t :: rest =>
      if t = separator then .ok ((t, .separator) :: rest.map fun u => (u, .operand))
      else do
        let w ← classify p t
        return (t, w) :: (← classifyAll p rest)

/-! ## Reading words -/

/-- What a switch is given: a value, or nothing. -/
inductive Argument (α : Type) where
  | value (a : α)
  | nothing
deriving DecidableEq

/-- What a switch is given by the text that is joined to it. -/
def Argument.ofJoined (t : Text) : Argument Text :=
  if t = separator then nothing else value t

/-- The operands so far. -/
inductive Operands where
  /-- None has been met. -/
  | awaited
  /-- The run of operands is going on. -/
  | running (ts : List Text)
  /-- The run has ended, or the program takes no operands. -/
  | ended (ts : List Text)

namespace Operands

/-- The operands at a switch. -/
def atSwitch : Operands → Operands
  | running ts => ended ts
  | o => o

/-- The list of operands. -/
def toList : Operands → List Text
  | awaited => []
  | running ts | ended ts => ts

end Operands

/-- What has been read: switches with their values, operands, and words that fit nowhere. -/
structure Reading where
  settings : List (Switch × Argument Text) := []
  operands : Operands
  extra : List Text := []

namespace Reading

/-- Puts a word among the operands, or among those that fit nowhere. -/
def addOperand (r : Reading) (t : Text) (isSeparator : Bool) : Reading :=
  let own : List Text := if isSeparator then [] else [t]
  match r.operands with
  | .awaited => { r with operands := .running own }
  | .running ts => { r with operands := .running (ts ++ own) }
  | .ended _ => { r with extra := r.extra ++ [t] }

/-- Puts a word among those that fit nowhere. -/
def addExtra (r : Reading) (t : Text) : Reading :=
  { r with extra := r.extra ++ [t] }

/-- Whether a switch was given. -/
def has (r : Reading) (s : Switch) : Bool :=
  r.settings.any fun e => e.1 == s

/-- The last value of a switch. -/
def value? (r : Reading) (s : Switch) : Option (Argument Text) :=
  (r.settings.reverse.find? fun e => e.1 == s).map Prod.snd

end Reading

/-- Applies a switch with what it is given; the request for help ends the reading. -/
def apply (p : Program) (r : Reading) (s : Switch) (given : Argument Text) :
    Except Refusal Reading :=
  let applied := { r with settings := r.settings ++ [(s, given)] }
  if s = .help then .error (.help p)
  else
    match given with
    | .nothing => .ok applied
    | .value t =>
        if s.isNumeric && (Decimal.integer? 10 t).isNone then
          .error (p.refuse s ("invalid int value: " ++ t.quoted))
        else .ok applied

/-- Applies several switches without values. -/
def applyAll (p : Program) (r : Reading) : List Switch → Except Refusal Reading
  | [] => .ok r
  | s :: rest => do applyAll p (← apply p r s .nothing) rest

/-- The refusal of a value that is joined to a switch without values. -/
def refuseValue (p : Program) (s : Switch) (value : Text) : Refusal :=
  p.refuse s ("ignored explicit argument " ++ value.quoted)

/-- The switches that stand together behind one hyphen, the first one being known. Every letter has
to be the name of one. -/
def expandShort (p : Program) : Switch → Text → Except Refusal (List Switch)
  | s, [] => .ok [s]
  | s, c :: rest =>
      match p.namedSwitches.lookup ("-" ++ [c]) with
      | none => .error (refuseValue p s (c :: rest))
      | some next => do return s :: (← expandShort p next rest)

/-- Reads a switch with something joined to it: its value, or further short switches. -/
def readJoined (p : Program) (r : Reading) (name : Text) (s : Switch) (joined : Text) :
    Except Refusal Reading :=
  if s.takesValue then apply p r s (.ofJoined joined)
  else if isShort name && !joined.isEmpty then do applyAll p r (← expandShort p s joined)
  else .error (refuseValue p s joined)

/-- Reads words one after the other. -/
def readWords (p : Program) : Reading → List (Text × Word) → Except Refusal Reading
  | r, [] => .ok r
  | r, (t, .operand) :: rest => readWords p (r.addOperand t false) rest
  | r, (t, .separator) :: rest => readWords p (r.addOperand t true) rest
  | r, (t, .unknown) :: rest =>
      readWords p { r.addExtra t with operands := r.operands.atSwitch } rest
  | r, (_, .switch name s joined) :: rest =>
      let r := { r with operands := r.operands.atSwitch }
      match joined with
      | some j => do readWords p (← readJoined p r name s j) rest
      | none =>
          if s.takesValue then
            match rest with
            | (t, .operand) :: rest => do readWords p (← apply p r s (.value t)) rest
            | _ => .error (p.refuse s "expected one argument")
          else do readWords p (← apply p r s .nothing) rest

/-- The reading of the words of a program. -/
def readAll (p : Program) (words : List (Text × Word)) : Except Refusal Reading :=
  readWords p { operands := if p.takesOperands then .awaited else .ended [] } words

end ComponentDocs.CommandLine
