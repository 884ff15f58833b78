import Encounter.Completion
import Encounter.Policy.Decision
import Encounter.Policy.Sightings

/-!
# The context of a tick

A `Scene` is what a tick only reads, a `Progress` what its moves change: the exclusions, the
completion flag, the environment that the combat routine lives in, the requests made of it, and the
decisions recorded.  The first decision recorded is the decision of the tick.
-/

namespace Encounter

structure Scene where
  config : Config
  now : Timestamp
  seen : Sightings
  deriving DecidableEq, Repr

structure Progress (ε : Type) where
  exclusions : Exclusions
  completion : Completion
  env : ε
  calls : List CombatCall := []
  recorded : List Decision := []

namespace Progress

variable {ε : Type}

/-- What has been decided: the first decision recorded, whatever came after it. -/
def decision (p : Progress ε) : Option Decision :=
  p.recorded.head?

def record (p : Progress ε) (decision : Decision) : Progress ε :=
  { p with recorded := p.recorded ++ [decision] }

def target (routine : CombatRoutine ε) (guid : Guid) (p : Progress ε) : Bool × Progress ε :=
  let (accepted, env) := routine.target guid p.env
  (accepted, { p with env, calls := p.calls ++ [.target guid accepted] })

def exclude (routine : CombatRoutine ε) (guid : Guid) (now : Timestamp) (p : Progress ε) :
    Progress ε :=
  let (expiry, exclusions) := p.exclusions.add guid Exclusions.lifetime now
  { p with
    exclusions
    env := routine.exclude guid expiry p.env
    calls := p.calls ++ [.exclude guid expiry] }

def flush (routine : CombatRoutine ε) (p : Progress ε) : Progress ε :=
  { p with
    exclusions := p.exclusions.flush
    env := routine.flush p.env
    calls := p.calls ++ [.flush] }

def perform (routine : CombatRoutine ε) (part : RoutinePart) (p : Progress ε) :
    Status × Progress ε :=
  let (status, env) := routine.perform part p.env
  (status, { p with env, calls := p.calls ++ [.perform part status] })

def markDone (p : Progress ε) : Progress ε :=
  { p with completion := p.completion.markDone.2 }

end Progress

end Encounter
