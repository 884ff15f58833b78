import Encounter.Task

/-!
# Driving a task

A drive ticks one task again and again in given surroundings.  Before each tick it asks whether a
stop has been requested, and if so stops the task and ends; else it takes one snapshot of the
world, ticks the task on it and notes the report, and ends when the task is done.  A tick that is
refused ends the drive at once.  Surroundings may keep a drive going for ever, so a drive is run for
a given number of rounds.
-/

namespace Encounter

structure Surroundings (ε : Type) where
  host : Host ε
  routine : CombatRoutine ε
  snapshot : ε → World × ε
  stopRequested : ε → Bool

inductive Ending where
  | finished
  | refused (error : TaskError)
  deriving DecidableEq, Repr

structure Drive (ε : Type) where
  task : Task
  env : ε
  calls : List Call := []
  /-- The report of each tick so far, with the clock of its snapshot. -/
  reports : List (Timestamp × TickResult) := []
  served : Nat := 0
  ending : Option Ending := none

namespace Drive

variable {ε : Type}

def halt (around : Surroundings ε) (d : Drive ε) : Drive ε :=
  let turn := d.task.stop around.host d.env
  { d with
    task := turn.task
    env := turn.env
    calls := d.calls ++ turn.calls
    ending := some .finished }

def advance (around : Surroundings ε) (d : Drive ε) : Drive ε :=
  let (world, env) := around.snapshot d.env
  let turn := d.task.tick around.host around.routine world env
  let ticked : Drive ε :=
    { d with
      task := turn.task
      env := turn.env
      calls := d.calls ++ turn.calls
      served := d.served + 1 }
  match turn.answer with
  | .error e => { ticked with ending := some (.refused e) }
  | .ok report =>
      { ticked with
        reports := d.reports ++ [(world.now, report)]
        ending := if turn.task.phase = .done then some .finished else none }

/-- One round: stop if that has been requested, else tick. -/
def round (around : Surroundings ε) (d : Drive ε) : Drive ε :=
  if around.stopRequested d.env then d.halt around else d.advance around

def run (around : Surroundings ε) : Nat → Drive ε → Drive ε
  | 0, d => d
  | rounds + 1, d =>
      if d.ending.isSome then d else run around rounds (d.round around)

end Drive

end Encounter
