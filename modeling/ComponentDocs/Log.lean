import ComponentDocs.Text.Basic

/-!
# The log

A record has a level, the name of the logger that it comes from, and a message. The loggers of the
program have names below one root. Which records are written is decided by a threshold.
-/

set_option autoImplicit false

namespace ComponentDocs.Log

/-- The weight of a record. Any integer is one, and a few of them have names. -/
structure Level where
  rank : Int
deriving DecidableEq

namespace Level

def debug : Level := ⟨10⟩

def info : Level := ⟨20⟩

def warning : Level := ⟨30⟩

def error : Level := ⟨40⟩

def critical : Level := ⟨50⟩

/-- The level that stands for none. -/
def unset : Level := ⟨0⟩

/-- The levels that have names. -/
def named : List (Level × Text) :=
  [(debug, "DEBUG"), (info, "INFO"), (warning, "WARNING"), (error, "ERROR"), (critical, "CRITICAL"),
    (unset, "NOTSET")]

/-- The name of a level, which is made of its rank if it has none of its own. -/
def name (l : Level) : Text :=
  (named.lookup l).getD ("Level " ++ Text.ofInt l.rank)

/-- The level with a name; two levels have a second name. -/
def ofName? (t : Text) : Option Level :=
  if t = "WARN" then some warning
  else if t = "FATAL" then some critical
  else (named.find? fun l => l.2 == t).map Prod.fst

end Level

/-- The name at the root of all loggers. -/
def rootName : Text := "docblocks"

/-- The full name of the logger of a part of the program; the root without one. -/
def loggerName (part : Option Text) : Text :=
  match part with
  | none => rootName
  | some p => if p.isEmpty then rootName else rootName ++ "." ++ p

/-- A record of the log. -/
structure Record where
  level : Level
  logger : Text
  message : Text
deriving DecidableEq

/-- A debugging record of a part of the program. -/
def debug (part : Text) (message : Text) : Record :=
  ⟨.debug, loggerName (some part), message⟩

/-- An informing record of a part of the program. -/
def info (part : Text) (message : Text) : Record :=
  ⟨.info, loggerName (some part), message⟩

/-- The line that a record becomes on the stream. -/
def Record.streamLine (r : Record) : Text :=
  "[docblocks] " ++ r.level.name ++ " " ++ r.message ++ "\n"

/-- The line that a record becomes in a file, behind the time of writing. -/
def Record.fileLine (r : Record) : Text :=
  r.level.name ++ " " ++ r.logger ++ ": " ++ r.message

/-- Whether a record can be stored in a file: no half of a surrogate pair can. -/
def Record.isStorable (r : Record) : Bool :=
  !r.fileLine.any CodePoint.isHalf

/-- The least level that is written. -/
def threshold (verbose : Bool) : Level :=
  if verbose then .debug else .info

/-- The records that are written. -/
def audible (verbose : Bool) (records : List Record) : List Record :=
  records.filter fun r => (threshold verbose).rank ≤ r.level.rank

end ComponentDocs.Log
