import Encounter.Replay.CommandLine

/-!
# The program

Reads the script that the command line names, replays it and prints its ticks.
-/

namespace Encounter.CommandLine

def readFile? (path : String) : IO (Option ByteArray) := do
  try
    return some (← IO.FS.readBinFile path)
  catch _ =>
    return none

def Outcome.print (outcome : Outcome) : IO UInt32 := do
  IO.print outcome.output
  if let some complaint := outcome.complaint then
    IO.eprintln complaint
  return outcome.exit.toUInt32

end Encounter.CommandLine

open Encounter.CommandLine in
def main (args : List String) : IO UInt32 := do
  match parse args with
  | none => refused.print
  | some options => (options.run (← readFile? options.path)).print
