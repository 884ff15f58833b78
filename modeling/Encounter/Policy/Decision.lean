import Encounter.CombatRoutine

/-!
# Decisions

What the one action that did work in a tick has decided.
-/

namespace Encounter

inductive Decision where
  | complete
  | exclude (guid : Guid)
  | engagePriority (guid : Guid)
  | flushExclusions
  | engageBoss (guid : Guid)
  | routine (part : RoutinePart)
  deriving DecidableEq, Repr

def Decision.label : Decision → String
  | .complete => "complete"
  | .exclude _ => "exclude"
  | .engagePriority _ => "engage_priority"
  | .flushExclusions => "flush_exclusions"
  | .engageBoss _ => "engage_boss"
  | .routine _ => "routine"

end Encounter
