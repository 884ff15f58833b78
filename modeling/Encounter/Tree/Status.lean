/-!
# Outcomes of a node

Every node of a decision tree answers with one of three outcomes.  A branch of alternatives only
ever asks whether an outcome is a failure.
-/

namespace Encounter

inductive Status where
  | success
  | failure
  | running
  deriving DecidableEq, Repr, Inhabited

namespace Status

def isFailure : Status → Bool
  | .failure => true
  | .success | .running => false

def label : Status → String
  | .success => "success"
  | .failure => "failure"
  | .running => "running"

@[simp]
theorem isFailure_iff {s : Status} : s.isFailure = true ↔ s = .failure := by
  cases s <;> simp [isFailure]

theorem label_injective {s t : Status} (h : s.label = t.label) : s = t := by
  cases s <;> cases t <;> simp_all [label]

end Status

end Encounter
