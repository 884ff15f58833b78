import Encounter.Task

/-!
# Rendering ticks

One line for each tick, either a summary to be read or an object of JSON.  In a summary the number
of the tick is padded to three places, its time to seven and its status to seven.
-/

namespace Encounter

inductive Format where
  | summary
  | json
  deriving DecidableEq, Repr, Inhabited

structure ReplayTick where
  tick : Nat
  now : Timestamp
  report : TickResult
  deriving DecidableEq, Repr

def TickResult.outcome : TickResult → String
  | .deferred => "deferred"
  | .evaluated _ _ => "evaluated"
  | .finished => "finished"

def TickResult.status? : TickResult → Option Status
  | .evaluated status _ => some status
  | .deferred | .finished => none

def TickResult.decision? : TickResult → Option Decision
  | .evaluated _ decision => decision
  | .deferred | .finished => none

namespace Decision

def description (decision : Decision) : String :=
  match decision with
  | .exclude guid | .engagePriority guid | .engageBoss guid => decision.label ++ " " ++ guid.text
  | .routine part => decision.label ++ " " ++ part.label
  | .complete | .flushExclusions => decision.label

def partName : RoutinePart → String
  | .heal => "Heal"
  | .combatBuff => "CombatBuff"
  | .combat => "Combat"

def name : Decision → String
  | .complete => "Complete"
  | .exclude _ => "Exclude"
  | .engagePriority _ => "EngagePriority"
  | .flushExclusions => "FlushExclusions"
  | .engageBoss _ => "EngageBoss"
  | .routine _ => "Routine"

def argument? : Decision → Option String
  | .exclude guid | .engagePriority guid | .engageBoss guid => some guid.val.toNat.repr
  | .routine part => some ("\"" ++ partName part ++ "\"")
  | .complete | .flushExclusions => none

/-- A decision in JSON: its name, or an object of its name and what it is about. -/
def json (decision : Decision) : String :=
  match decision.argument? with
  | none => "\"" ++ decision.name ++ "\""
  | some argument => "\x7b\"" ++ decision.name ++ "\":" ++ argument ++ "\x7d"

end Decision

namespace ReplayTick

def padRight (width : Nat) (s : String) : String :=
  s ++ String.ofList (List.replicate (width - s.length) ' ')

def padLeft (width : Nat) (s : String) : String :=
  String.ofList (List.replicate (width - s.length) ' ') ++ s

def head (r : ReplayTick) : String :=
  "#" ++ padRight 3 r.tick.repr ++ " " ++ padLeft 7 r.now.millis.toNat.repr ++ "ms"

def gist : TickResult → String
  | .evaluated status (some decision) => padRight 7 status.label ++ "  " ++ decision.description
  | .evaluated status none => padRight 7 status.label ++ "  (no action)"
  | .deferred => TickResult.deferred.outcome
  | .finished => TickResult.finished.outcome

def summary (r : ReplayTick) : String :=
  r.head ++ "  " ++ gist r.report

def statusJson : Option Status → String
  | none => "null"
  | some status => "\"" ++ status.label ++ "\""

def decisionJson : Option Decision → String
  | none => "null"
  | some decision => decision.json

def json (r : ReplayTick) : String :=
  "\x7b\"tick\":" ++ r.tick.repr ++ ",\"now\":" ++ r.now.millis.toNat.repr ++
    ",\"outcome\":\"" ++ r.report.outcome ++ "\",\"status\":" ++ statusJson r.report.status? ++
    ",\"decision\":" ++ decisionJson r.report.decision? ++ "\x7d"

def render (r : ReplayTick) : Format → String
  | .summary => r.summary
  | .json => r.json

end ReplayTick

end Encounter
