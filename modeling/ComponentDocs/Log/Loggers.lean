import ComponentDocs.Log
import ComponentDocs.OrderedMap
import ComponentDocs.Path

/-!
# Loggers and handlers

Records are logged through loggers, which are known by their names. A logger hands a record to its own
handlers and, as long as loggers propagate, to those of the loggers above it; a handler writes the
records from a level on to its sink. Whether a logger takes a record at all is decided by its own level,
or else by that of the nearest logger above it that has one. A logger above all others has a level and
no handlers.

The logger above another one is the nearest that is known under a part of its name that ends in front
of a dot (`ancestors`). `State.configure` gives the logger at the root of the program new handlers, of
which that for a file may fail to be made, and `State.log` writes a record; both are steps of a run
(`State.run`).
-/

set_option autoImplicit false

namespace ComponentDocs.Log

/-- Where records are written to. -/
inductive Sink where
  /-- An error stream; streams are told apart by a number. -/
  | stream (number : Nat)
  | file (path : Path)
deriving DecidableEq

/-- Whether a sink can hold a record: files hold encoded text only. -/
def Sink.accepts : Sink → Record → Bool
  | stream _, _ => true
  | file _, r => r.isStorable

/-- What writes the records from a level on to a sink. -/
structure Handler where
  level : Level
  sink : Sink
deriving DecidableEq

/-- A logger; one without a level of its own goes by the loggers above it. -/
structure Logger where
  level : Option Level := none
  handlers : List Handler := []
  propagates : Bool := true

/-- A file for the log, and whether it can be opened at the moment when the log is set up. -/
structure LogFile where
  path : Path
  opens : Bool := true

/-- What the log is set up with: whether debugging records are written, the error stream of the moment,
and a file. -/
structure Configuration where
  verbose : Bool
  stream : Nat
  file : Option LogFile := none

namespace Configuration

/-- The file of the configuration, if it has one that can be opened. -/
def openFile (c : Configuration) : Option Path :=
  (c.file.filter LogFile.opens).map LogFile.path

/-- The file of the configuration, if it has one that cannot be opened. -/
def unopenedFile (c : Configuration) : Option Path :=
  (c.file.filter fun f => !f.opens).map LogFile.path

/-- The handler for the stream. -/
def streamHandler (c : Configuration) : Handler :=
  ⟨threshold c.verbose, .stream c.stream⟩

/-- The handler for the file, which there is if the file can be opened. -/
def fileHandler? (c : Configuration) : Option Handler :=
  c.openFile.map fun f => ⟨threshold c.verbose, .file f⟩

end Configuration

namespace Logger

/-- The logger above all others. -/
def top : Logger :=
  { level := some .warning }

/-- The logger without a handler. -/
def removeHandler (l : Logger) (h : Handler) : Logger :=
  { l with handlers := l.handlers.erase h }

/-- The logger with one more handler. -/
def addHandler (l : Logger) (h : Handler) : Logger :=
  { l with handlers := l.handlers ++ [h] }

/-- The logger with a level and a handler for the stream, in the place of the handlers that it had. -/
def reset (l : Logger) (c : Configuration) : Logger :=
  let l := { l with level := some (threshold c.verbose), propagates := false }
  -- the handlers to be removed are those of this moment, and not of the logger as it loses them
  let l := l.handlers.foldl removeHandler l
  l.addHandler c.streamHandler

/-- The logger under a configuration: it is reset, and gets a handler for the file if that opens. -/
def configure (l : Logger) (c : Configuration) : Logger :=
  match c.fileHandler? with
  | none => l.reset c
  | some h => (l.reset c).addHandler h

end Logger

/-! ## Names -/

/-- The known names above a name that is given last character first, nearest first. A name is cut in
front of a dot; if what is left is not known, its last character is no place to cut. -/
def ancestorsFrom (known : Text → Bool) : Bool → Text → List Text
  | _, [] => []
  | true, _ :: rest => ancestorsFrom known false rest
  | false, c :: rest =>
      if c == '.' && !rest.isEmpty then
        if known rest.reverse then rest.reverse :: ancestorsFrom known false rest
        else ancestorsFrom known true rest
      else ancestorsFrom known false rest

/-- The known names above a name, nearest first. -/
def ancestors (known : List Text) (name : Text) : List Text :=
  ancestorsFrom known.contains false name.reverse

/-! ## The way of a record -/

/-- The level of the first logger that has one. -/
def effectiveLevel (lineage : List Logger) : Level :=
  (lineage.findSome? Logger.level).getD .unset

/-- The handlers of the loggers up to the first that does not propagate. -/
def handlersAlong : List Logger → List Handler
  | [] => []
  | l :: above => l.handlers ++ if l.propagates then handlersAlong above else []

/-- The records in a sink. -/
def recordsIn (sinks : OrderedMap Sink (List Record)) (x : Sink) : List Record :=
  (sinks.get? x).getD []

/-- What the sinks hold, with a record handed to a handler. -/
def deliver (r : Record) (sinks : OrderedMap Sink (List Record)) (h : Handler) :
    OrderedMap Sink (List Record) :=
  if h.level.rank ≤ r.level.rank ∧ h.sink.accepts r then
    sinks.alter h.sink fun old => old.getD [] ++ [r]
  else sinks

/-- Whether a record that meets no handler is shown all the same. -/
def Record.isUrgent (r : Record) : Bool :=
  Level.warning.rank ≤ r.level.rank

/-- The state of logging: the loggers that are known, the records in each sink that was ever used, sinks
in order of first use, and the urgent records that met no handler. -/
structure State where
  loggers : OrderedMap Text Logger := .empty
  sinks : OrderedMap Sink (List Record) := .empty
  unhandled : List Record := []

namespace State

/-- The records in a sink. -/
def contents (s : State) (x : Sink) : List Record :=
  recordsIn s.sinks x

/-- The logger of a name. -/
def logger (s : State) (name : Text) : Logger :=
  (s.loggers.get? name).getD {}

/-- The state in which a logger is known. -/
def know (s : State) (name : Text) : State :=
  { s with loggers := s.loggers.insertIfNew name {} }

/-- The loggers from that of a name upwards. -/
def lineage (s : State) (name : Text) : List Logger :=
  (name :: ancestors s.loggers.keys name).map s.logger ++ [.top]

/-- The state in which a sink is open; what is in it stays there. -/
def openSink (s : State) (x : Sink) : State :=
  { s with sinks := s.sinks.insertIfNew x [] }

/-- Sets up the log anew. This fails if there is a file that cannot be opened, and gives that file then.
The file is tried last, so that the log goes on with its new level and its new stream. -/
def configure (s : State) (c : Configuration) : Option Path × State :=
  let s := { s with loggers := s.loggers.alter rootName fun l => (l.getD {}).configure c }
  let s := s.openSink (.stream c.stream)
  match c.openFile with
  | none => (c.unopenedFile, s)
  | some f => (none, s.openSink (.file f))

/-- Logs a record through the logger that it names. -/
def log (s : State) (r : Record) : State :=
  let s := s.know r.logger
  let lineage := s.lineage r.logger
  let handlers := handlersAlong lineage
  if (effectiveLevel lineage).rank ≤ r.level.rank then
    { s with
      sinks := handlers.foldl (deliver r) s.sinks
      unhandled := s.unhandled ++ if handlers.isEmpty && r.isUrgent then [r] else [] }
  else s

end State

/-! ## Runs -/

/-- What happens to the log. -/
inductive Event where
  | configure (c : Configuration)
  /-- A message is logged through the logger of a part of the program. -/
  | log (part : Option Text) (level : Level) (message : Text)

/-- The record of a message that is logged for a part of the program. -/
def recordOf (part : Option Text) (level : Level) (message : Text) : Record :=
  ⟨level, loggerName part, message⟩

namespace State

/-- The state behind an event, also when that fails. -/
def step (s : State) : Event → State
  | .configure c => (s.configure c).2
  | .log part level message => s.log (recordOf part level message)

/-- The state behind several events. -/
def run (s : State) (events : List Event) : State :=
  events.foldl step s

end State

end ComponentDocs.Log
