import Encounter.CombatRoutine

/-!
# The host

The host owns the root that the task attaches itself to.  It is asked whether it can take the task
and is told when the task comes and goes.  Together with the requests made of the combat routine
these notices make up the calls of a task, in the order in which they were made.
-/

namespace Encounter

inductive HostCall where
  | attach
  | detach
  | clearStatusText
  deriving DecidableEq, Repr

structure Host (ε : Type) where
  /-- Whether its root is between two evaluations. -/
  isIdle : ε → Bool
  /-- Whether its root can take in another child. -/
  isComposable : ε → Bool
  tell : HostCall → ε → ε

def Host.isReady {ε : Type} (host : Host ε) (env : ε) : Bool :=
  host.isIdle env && host.isComposable env

inductive Call where
  | host (call : HostCall)
  | combat (call : CombatCall)
  deriving DecidableEq, Repr

end Encounter
