import Encounter.Proofs.Policy.Effect
import Encounter.Proofs.Tree.Table

/-!
# Policies written out as tables

Of what a move can change, gates read the exclusions and the completion flag, and a move that fails
changes neither.  So no gate is decided by the moves tried before it, and every policy, whatever its
shape, can be read off its table with all gates asked before the tick.
-/

namespace Encounter

variable {ε : Type}

theorem Gate.isOpen_congr {p p' : Progress ε} (hexclusions : p'.exclusions = p.exclusions)
    (hcompletion : p'.completion = p.completion) (scene : Scene) (gate : Gate) :
    gate.isOpen scene p' = gate.isOpen scene p := by
  cases gate <;> simp only [isOpen, hexclusions, hcompletion]

theorem Scene.isSteady_behaviour (scene : Scene) (routine : CombatRoutine ε) :
    (scene.behaviour routine).IsSteady := by
  intro move p hfailed gate
  have hidled := (Move.perform_promise routine scene p move).kept hfailed
  exact Gate.isOpen_congr hidled.exclusions hidled.completion scene gate

/-- Whatever its shape, a tree over gates and moves does what its table says: of its leaves from
left to right, those that have all gates on their path open before the tick are performed, up to
the first that does not fail. -/
theorem Scene.tick_eq_table (scene : Scene) (routine : CombatRoutine ε) (tree : PolicyTree)
    (start : Progress ε) :
    tree.table.map Row.act = tree.leaves ∧
      tree.tick (scene.behaviour routine) start =
        (scene.behaviour routine).performFirst
          ((tree.table.filter fun row =>
            row.conditions.all fun gate => gate.isOpen scene start).map Row.act) start :=
  ⟨Node.map_act_table tree,
    Node.tick_eq_performFirst (scene.isSteady_behaviour routine) tree start⟩

/-- The moves of the policy, each with the gates that it stands behind. -/
example :
    Policy.tree.table.map (fun row => (row.conditions.map Gate.label, row.act.label)) =
      [(["not_done", "boss_defeated"], "complete"),
        (["not_done", "unexcluded_candidate"], "exclude_candidate"),
        (["not_done", "priority_window", "off_priority_target"], "target_priority_unit"),
        (["not_done", "priority_window"], "heal"),
        (["not_done", "priority_window"], "combat_buff"),
        (["not_done", "priority_window"], "combat"),
        (["not_done", "stale_exclusions"], "flush_exclusions"),
        (["not_done", "boss_engageable", "off_boss"], "target_boss"),
        (["not_done", "boss_engageable"], "heal"),
        (["not_done", "boss_engageable"], "combat_buff"),
        (["not_done", "boss_engageable"], "combat")] := by
  decide

end Encounter
