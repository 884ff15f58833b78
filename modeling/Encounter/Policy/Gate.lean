import Encounter.Policy.Context

/-!
# Gates of the policy

The conditions that open and close the branches of the policy.  They read the context and never
change it; all but two read only the scene.
-/

namespace Encounter

inductive Gate where
  | notDone
  | bossDefeated
  /-- There is a candidate of the blacklist, and it is still not excluded. -/
  | unexcludedCandidate
  | priorityWindow
  | offPriorityTarget
  | staleExclusions
  | bossEngageable
  | offBoss
  deriving DecidableEq, Repr

namespace Gate

def all : List Gate :=
  [.notDone, .bossDefeated, .unexcludedCandidate, .priorityWindow, .offPriorityTarget,
    .staleExclusions, .bossEngageable, .offBoss]

def label : Gate → String
  | .notDone => "not_done"
  | .bossDefeated => "boss_defeated"
  | .unexcludedCandidate => "unexcluded_candidate"
  | .priorityWindow => "priority_window"
  | .offPriorityTarget => "off_priority_target"
  | .staleExclusions => "stale_exclusions"
  | .bossEngageable => "boss_engageable"
  | .offBoss => "off_boss"

def isOpen {ε : Type} (scene : Scene) (p : Progress ε) : Gate → Bool
  | .notDone => !p.completion.isDone
  | .bossDefeated => scene.seen.boss.all Creature.isDead
  | .unexcludedCandidate =>
      !scene.config.blacklist.isEmpty &&
        scene.seen.candidate.any fun c => !p.exclusions.contains c.guid scene.now
  | .priorityWindow =>
      (scene.seen.priority.isSome && scene.seen.boss.any (·.hasAura scene.config.aura)) ||
        scene.config.ignoreBoss
  | .offPriorityTarget =>
      scene.seen.targetGuid != scene.seen.priority.map Creature.guid ||
        scene.seen.target.any Creature.isDead
  | .staleExclusions => scene.seen.excluded.isSome && scene.seen.priority.isNone
  | .bossEngageable => scene.seen.boss.any fun boss => !boss.hasAura scene.config.aura
  | .offBoss => scene.seen.targetGuid != scene.seen.boss.map Creature.guid

end Gate

end Encounter
