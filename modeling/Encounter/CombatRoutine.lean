import Encounter.Tree.Status
import Encounter.World.Clock
import Encounter.World.Identity

/-!
# The combat routine

The task leaves fighting to a combat routine.  A `CombatRoutine ε` is such a routine over an
environment `ε`: what it does and answers may depend on everything that has happened to the
environment so far.  Each request made of it, with the answer where there is one, is a `CombatCall`.
-/

namespace Encounter

inductive RoutinePart where
  | heal
  | combatBuff
  | combat
  deriving DecidableEq, Repr

def RoutinePart.label : RoutinePart → String
  | .heal => "heal"
  | .combatBuff => "combat_buff"
  | .combat => "combat"

structure Untargetable where
  guid : Guid
  deriving DecidableEq, Repr

def Untargetable.message (refusal : Untargetable) : String :=
  "unit " ++ refusal.guid.text ++ " cannot be targeted"

structure CombatRoutine (ε : Type) where
  /-- Asks for a switch of target; answers whether it was made. -/
  target : Guid → ε → Bool × ε
  exclude : Guid → Timestamp → ε → ε
  flush : ε → ε
  perform : RoutinePart → ε → Status × ε

inductive CombatCall where
  | target (guid : Guid) (accepted : Bool)
  | exclude (guid : Guid) (expiry : Timestamp)
  | flush
  | perform (part : RoutinePart) (status : Status)
  deriving DecidableEq, Repr

end Encounter
