import ComponentDocs.CommandLine.Words

/-!
# Commands

The program has two commands, each with switches of its own. `Invocation.parse` reads a whole command
line: the switches in front of the command, the command, and the words behind it, which belong to the
command.
-/

set_option autoImplicit false

namespace ComponentDocs.CommandLine

/-- What the words behind a command ask for. -/
inductive Command where
  /-- Print the components of files, or of the sources of the project when there are none. -/
  | parse (files : List Text) (config : Argument Text) (indent : Option (Argument Int))
      (keepApart : Bool)
  /-- Answer requests at an address. -/
  | serve (host : Argument Text) (portNumber : Argument Int)

/-- A command line that can be carried out. -/
structure Invocation where
  verbose : Bool
  command : Command

/-! ## Programs -/

/-- Lines, each with its end. -/
def textOf (lines : List String) : Text :=
  lines.flatMap fun l => Text.ofString l ++ "\n"

/-- The program as a whole. -/
def mainProgram : Program where
  title := "docblocks"
  switches := [.help, .verbose]
  takesOperands := false
  usage := textOf ["usage: docblocks [-h] [-v] \x7bparse,serve\x7d ..."]
  help := textOf [
    "usage: docblocks [-h] [-v] \x7bparse,serve\x7d ...",
    "",
    "Extract documentation components from markdown files and source comments.",
    "",
    "positional arguments:",
    "  \x7bparse,serve\x7d",
    "    parse        Parse files and print their components as JSON.",
    "    serve        Run the HTTP parsing service.",
    "",
    "options:",
    "  -h, --help     show this help message and exit",
    "  -v, --verbose  Increase log verbosity for troubleshooting."]

/-- How the command that prints components is used. -/
def parseUsage : List String := [
  "usage: docblocks parse [-h] [-v] [--config CONFIG] [--indent INDENT]",
  "                       [--no-merge]",
  "                       [paths ...]"]

/-- The command that prints components. -/
def parseProgram : Program where
  title := "docblocks parse"
  switches := [.help, .verbose, .config, .indent, .noMerge]
  takesOperands := true
  usage := textOf parseUsage
  help := textOf (parseUsage ++ [
    "",
    "positional arguments:",
    "  paths            Markdown or source files to parse (defaults to the",
    "                   configured sources).",
    "",
    "options:",
    "  -h, --help       show this help message and exit",
    "  -v, --verbose    Increase log verbosity for troubleshooting.",
    "  --config CONFIG  Path to .docblocks.yml or the directory containing it",
    "                   (defaults to current directory).",
    "  --indent INDENT  Indentation for JSON output (overrides the config file).",
    "  --no-merge       Keep components that share a name as separate entries."])

/-- How the command that answers requests is used. -/
def serveUsage : List String := [
  "usage: docblocks serve [-h] [-v] [--host HOST] [--port PORT]"]

/-- The command that answers requests. -/
def serveProgram : Program where
  title := "docblocks serve"
  switches := [.help, .verbose, .host, .portNumber]
  takesOperands := false
  usage := textOf serveUsage
  help := textOf (serveUsage ++ [
    "",
    "options:",
    "  -h, --help     show this help message and exit",
    "  -v, --verbose  Increase log verbosity for troubleshooting.",
    "  --host HOST    Interface to bind.",
    "  --port PORT    Port to listen on."])

/-! ## Reading a command line -/

/-- The integer that a numeric switch was given. -/
def numberOf? (r : Reading) (s : Switch) : Option (Argument Int) :=
  match r.value? s with
  | none => none
  | some .nothing => some .nothing
  | some (.value t) => (Decimal.integer? 10 t).map .value

/-- The command that a reading of the words behind its name asks for. -/
def parseCommand (r : Reading) : Command :=
  .parse r.operands.toList ((r.value? .config).getD (.value ".")) (numberOf? r .indent) (r.has .noMerge)

/-- The command that a reading of the words behind its name asks for. -/
def serveCommand (r : Reading) : Command :=
  .serve ((r.value? .host).getD (.value "127.0.0.1"))
    ((numberOf? r .portNumber).getD (.value 8000))

/-- The commands by name: what they understand, and what they make of it. -/
def commands : List (Text × Program × (Reading → Command)) :=
  [("parse", parseProgram, parseCommand), ("serve", serveProgram, serveCommand)]

/-- The refusal of a word that should name a command. -/
def refuseCommand (t : Text) : Refusal :=
  .misuse mainProgram ("argument command: invalid choice: " ++ t.quoted ++
    " (choose from " ++ Text.join ", " (commands.map fun c => Text.quoted c.1) ++
    ")")

/-- The refusal of a command line without a command. -/
def refuseNoCommand : Refusal :=
  .misuse mainProgram "the following arguments are required: command"

/-- The refusal of words that fit nowhere. -/
def refuseExtra (ts : List Text) : Refusal :=
  .misuse mainProgram ("unrecognized arguments: " ++ Text.join " " ts)

/-- Whether a word stands where the command could. -/
def isCommandPlace : Word → Bool
  | .operand | .separator => true
  | _ => false

/-- Reads the words behind the name of a command, given what was read in front of it. -/
def readCommand (front : Reading) (name : Text) (words : List Text) : Except Refusal Invocation :=
  match commands.lookup name with
  | none => .error (refuseCommand name)
  | some (program, command) => do
      let r ← readAll program (← classifyAll program words)
      match front.extra ++ r.extra with
      | [] => return ⟨front.has .verbose || r.has .verbose, command r⟩
      | extra => throw (refuseExtra extra)

/-- Reads a command line. -/
def Invocation.parse (words : List Text) : Except Refusal Invocation := do
  let classified ← classifyAll mainProgram words
  let front ← readAll mainProgram (classified.takeWhile fun w => !isCommandPlace w.2)
  match classified.dropWhile fun w => !isCommandPlace w.2 with
  | [] => throw refuseNoCommand
  | [(_, .separator)] => throw refuseNoCommand
  | (name, _) :: rest => readCommand front name (rest.map Prod.fst)

end ComponentDocs.CommandLine
