import Encounter.Drive
import Encounter.Replay.Fighter
import Encounter.Replay.Reel
import Encounter.Replay.Report
import Encounter.Replay.Script

/-!
# Replays

A replay drives a fresh task through the frames of a script, with a host that is always ready and
the simulated combat routine.  The routine's target is the player's own, so the reel shows it in
every later frame.
-/

namespace Encounter

structure Stage where
  reel : Reel
  fighter : Fighter := {}
  deriving Repr

namespace Stage

/-- A host that can always take the task and keeps no trace of it. -/
def host : Host Stage where
  isIdle _ := true
  isComposable _ := true
  tell _ stage := stage

def routine : CombatRoutine Stage where
  target guid stage :=
    let (accepted, fighter) := stage.fighter.aim guid
    (accepted, { stage with fighter })
  exclude guid _ stage := { stage with fighter := stage.fighter.exclude guid }
  flush stage := { stage with fighter := stage.fighter.flush }
  perform part stage := (Fighter.outcome part, stage)

def surroundings : Surroundings Stage where
  host := host
  routine := routine
  snapshot stage :=
    let (world, reel) := stage.reel.snapshot stage.fighter.target
    (world, { stage with reel })
  stopRequested stage := stage.reel.stopRequested

end Stage

structure Replay where
  phase : Phase
  completed : Bool
  ticks : List ReplayTick
  excluded : List Guid
  deriving DecidableEq, Repr

namespace Script

def opening (script : Script) : Drive Stage where
  task := Task.ofAttributes script.attributes
  env := { reel := { pending := script.frames } }

/-- Rounds enough for a replay: one for each frame, at least one, and one for the stop. -/
def rounds (script : Script) : Nat :=
  script.frames.length + 2

def play (script : Script) : Drive Stage :=
  script.opening.run Stage.surroundings script.rounds

end Script

def ReplayTick.number (first : Nat) : List (Timestamp × TickResult) → List ReplayTick
  | [] => []
  | (now, report) :: rest => { tick := first, now, report } :: number (first + 1) rest

namespace Replay

def ofDrive (d : Drive Stage) : Replay where
  phase := d.task.phase
  completed := d.task.isDone
  ticks := ReplayTick.number 1 d.reports
  excluded := d.env.fighter.excluded

end Replay

def Script.replay (script : Script) : Except TaskError Replay :=
  match script.play.ending with
  | some (.refused e) => .error e
  | some .finished | none => .ok (Replay.ofDrive script.play)

end Encounter
