import Encounter.Replay.Basic

/-!
# The command line

A replay is asked for with the path of a script and up to two options.  Anything else on the command
line is refused before the script is read.  The period between ticks has to make sense but leaves no
trace in what is printed.
-/

namespace Encounter.CommandLine

structure Options where
  path : String
  period : Nat := 100
  format : Format := .summary
  deriving DecidableEq, Repr

structure Draft where
  path : Option String := none
  period : Option Nat := none
  format : Option Format := none
  deriving DecidableEq, Repr

namespace Draft

def addPath (d : Draft) (path : String) : Option Draft :=
  if d.path.isNone ∧ path ≠ "" then some { d with path := some path } else none

def addPeriod (d : Draft) (value : String) : Option Draft :=
  match d.period, Text.Decimal.signedBelow? UInt64.size value.toList with
  | none, some period => some { d with period := some period }
  | _, _ => none

def addFormat (d : Draft) (value : String) : Option Draft :=
  match d.format, value with
  | none, "summary" => some { d with format := some .summary }
  | none, "json" => some { d with format := some .json }
  | _, _ => none

def addJoined (d : Draft) (arg : String) : Option Draft :=
  match "--period-ms=".toList.isPrefixOf? arg.toList, "--format=".toList.isPrefixOf? arg.toList with
  | some value, _ => d.addPeriod (String.ofList value)
  | none, some value => d.addFormat (String.ofList value)
  | none, none => none

def readPaths (d : Draft) (args : List String) : Option Draft :=
  args.foldlM addPath d

/-- Whether an argument is not an option: it is a lone hyphen or does not start with one. -/
def isPath (arg : String) : Bool :=
  arg == "-" || arg.toList.head? != some '-'

/-- Takes arguments in order.  Behind a lone pair of hyphens all of them are paths. -/
def read (d : Draft) : List String → Option Draft
  | [] => some d
  | "--" :: rest => d.readPaths rest
  | [arg] => if isPath arg then d.addPath arg else d.addJoined arg
  | arg :: value :: rest =>
      if arg = "--period-ms" then (d.addPeriod value).bind (read · rest)
      else if arg = "--format" then (d.addFormat value).bind (read · rest)
      else if isPath arg then (d.addPath arg).bind (read · (value :: rest))
      else (d.addJoined arg).bind (read · (value :: rest))

def finish (d : Draft) : Option Options :=
  d.path.map fun path => { path, period := d.period.getD 100, format := d.format.getD .summary }

end Draft

def parse (args : List String) : Option Options :=
  (Draft.read {} args).bind Draft.finish

structure Outcome where
  exit : UInt8
  lines : List String := []
  complaint : Option String := none
  deriving DecidableEq, Repr

/-- All that is printed: the lines, each of them ended. -/
def Outcome.output (outcome : Outcome) : String :=
  String.join (outcome.lines.map (· ++ "\n"))

def refused : Outcome where
  exit := 2
  complaint := some "expected a script and at most one --period-ms and one --format"

/-- Replays the script in a file, given its bytes if it could be read.  Nothing is printed unless
the whole replay succeeds. -/
def Options.run (options : Options) (content : Option ByteArray) : Outcome :=
  match Script.ofFile options.path content with
  | .error e => { exit := 1, complaint := some e.message }
  | .ok script =>
      match script.replay with
      | .error e => { exit := 1, complaint := some e.message }
      | .ok replay => { exit := 0, lines := replay.ticks.map (·.render options.format) }

end Encounter.CommandLine
