import Encounter.CombatRoutine

/-!
# The simulated combat routine

A routine with nothing to heal and nothing to buff, whose attacks always succeed.  It refuses to
turn to a creature that it was told to leave alone, for as long as it has not been told otherwise.
-/

namespace Encounter

structure Fighter where
  target : Option Guid := none
  excluded : List Guid := []
  deriving DecidableEq, Repr

namespace Fighter

def insertAscending (guid : Guid) : List Guid → List Guid
  | [] => [guid]
  | first :: rest =>
      if guid = first then first :: rest
      else if guid.val < first.val then guid :: first :: rest
      else first :: insertAscending guid rest

def aim (guid : Guid) (f : Fighter) : Bool × Fighter :=
  if f.excluded.contains guid then (false, f) else (true, { f with target := some guid })

def exclude (guid : Guid) (f : Fighter) : Fighter :=
  { f with excluded := insertAscending guid f.excluded }

def flush (f : Fighter) : Fighter :=
  { f with excluded := [] }

def outcome : RoutinePart → Status
  | .heal | .combatBuff => .failure
  | .combat => .success

end Fighter

end Encounter
