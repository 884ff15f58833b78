/-!
# Completion

A flag that turns once, from not done to done, and never back.
-/

namespace Encounter

structure Completion where
  isDone : Bool := false
  deriving DecidableEq, Repr, Inhabited

/-- Turns the flag; answers whether this call turned it. -/
def Completion.markDone (c : Completion) : Bool × Completion :=
  (!c.isDone, { isDone := true })

end Encounter
