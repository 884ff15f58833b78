import Encounter.Policy.Gate
import Encounter.Policy.Move
import Encounter.Tree.Basic

/-!
# The policy

The policy is one tree behind the gate that the task is not complete.  Its branches, in order:
complete the task once the boss is dead or gone, exclude the nearest candidate of the blacklist,
engage the kill order while its window is open, drop the exclusions once no creature of the kill
order is left, and engage the boss while it does not carry the effect.  A branch that engages hands
the tick to the combat routine when the target is right already or cannot be had.
-/

namespace Encounter

abbrev PolicyTree := Node Gate Move

namespace Policy

def completion : PolicyTree :=
  .guard .bossDefeated (.action .complete)

def exclusion : PolicyTree :=
  .guard .unexcludedCandidate (.action .excludeCandidate)

def routine : PolicyTree :=
  .priority [.action .heal, .action .combatBuff, .action .combat]

def killOrder : PolicyTree :=
  .guard .priorityWindow <| .priority
    [.guard .offPriorityTarget (.action .targetPriority), routine]

def amnesty : PolicyTree :=
  .guard .staleExclusions (.action .flushExclusions)

def boss : PolicyTree :=
  .guard .bossEngageable <| .priority
    [.guard .offBoss (.action .targetBoss), routine]

def tree : PolicyTree :=
  .guard .notDone <| .priority [completion, exclusion, killOrder, amnesty, boss]

def named : List (String × PolicyTree) :=
  [("target_selection_tree", tree), ("done_yet", completion), ("blacklist_adds", exclusion),
    ("priority_kill", killOrder), ("remove_blacklist_adds", amnesty), ("kill_boss", boss),
    ("use_combat_routine", routine)]

end Policy

/-- What gates and moves mean on one scene, with one combat routine. -/
def Scene.behaviour {ε : Type} (scene : Scene) (routine : CombatRoutine ε) :
    Behaviour Gate Move (Progress ε) where
  holds gate p := gate.isOpen scene p
  perform move p := move.perform routine scene p

@[simp]
theorem Scene.behaviour_holds {ε : Type} (scene : Scene) (routine : CombatRoutine ε) (gate : Gate)
    (p : Progress ε) : (scene.behaviour routine).holds gate p = gate.isOpen scene p :=
  rfl

@[simp]
theorem Scene.behaviour_perform {ε : Type} (scene : Scene) (routine : CombatRoutine ε)
    (move : Move) (p : Progress ε) :
    (scene.behaviour routine).perform move p = move.perform routine scene p :=
  rfl

end Encounter
