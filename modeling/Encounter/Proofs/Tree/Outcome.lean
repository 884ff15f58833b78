import Encounter.Tree.Basic

/-!
# Outcomes of whole trees

What every leaf of a tree promises, the tree promises.  The promise has two halves: a property
`Kept` of contexts, which a leaf that fails hands on, and a property `Ended` of the outcome and the
context of a leaf that does not fail.  A failing leaf lets the tree go on and any other ends it, so
the first half carries the induction and the second is only ever established once.
-/

namespace Encounter

variable {γ α κ : Type} {b : Behaviour γ α κ}
variable {Kept : κ → Prop} {Ended : Status → κ → Prop}

structure Outcome (Kept : κ → Prop) (Ended : Status → κ → Prop) (answer : Status × κ) : Prop where
  kept : answer.1 = .failure → Kept answer.2
  ended : answer.1 ≠ .failure → Ended answer.1 answer.2

theorem Outcome.of_kept {k : κ} (hk : Kept k) : Outcome Kept Ended (.failure, k) where
  kept _ := hk
  ended h := absurd rfl h

theorem Outcome.of_ended {status : Status} {k : κ} (hstatus : status ≠ .failure)
    (hk : Ended status k) : Outcome Kept Ended (status, k) where
  kept h := absurd h hstatus
  ended _ := hk

namespace Node

mutual

/-- A promise that every leaf keeps is kept by one tick of any tree. -/
theorem tick_outcome
    (hleaf : ∀ act k, Kept k → Outcome Kept Ended (b.perform act k)) :
    ∀ (tree : Node γ α) (k : κ), Kept k → Outcome Kept Ended (tree.tick b k)
  | .guard condition child, k, hk => by
      rw [tick_guard]
      split
      · exact tick_outcome hleaf child k hk
      · exact .of_kept hk
  | .priority children, k, hk => by
      rw [tick_priority]
      exact tickFirst_outcome hleaf children k hk
  | .action act, k, hk => by
      rw [tick_action]
      exact hleaf act k hk

theorem tickFirst_outcome
    (hleaf : ∀ act k, Kept k → Outcome Kept Ended (b.perform act k)) :
    ∀ (children : List (Node γ α)) (k : κ), Kept k →
      Outcome Kept Ended (tickFirst b children k)
  | [], k, hk => by
      rw [tickFirst_nil]
      exact .of_kept hk
  | child :: rest, k, hk => by
      have hchild := tick_outcome hleaf child k hk
      rw [tickFirst_cons]
      split
      next hfailed => exact tickFirst_outcome hleaf rest _ (hchild.kept hfailed)
      next => exact hchild

end

end Node

end Encounter
