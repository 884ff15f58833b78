import Encounter.Policy.Context

/-!
# Moves of the policy

Each move has one effect, and records a decision if it had it.  A move that has no creature to act
on, or whose request is refused, fails and leaves the tick to the next branch.
-/

namespace Encounter

inductive Move where
  | complete
  | excludeCandidate
  | targetPriority
  | flushExclusions
  | targetBoss
  | heal
  | combatBuff
  | combat
  deriving DecidableEq, Repr

namespace Move

def all : List Move :=
  [.complete, .excludeCandidate, .targetPriority, .flushExclusions, .targetBoss, .heal, .combatBuff,
    .combat]

def label : Move → String
  | .complete => "complete"
  | .excludeCandidate => "exclude_candidate"
  | .targetPriority => "target_priority_unit"
  | .flushExclusions => "flush_exclusions"
  | .targetBoss => "target_boss"
  | .heal => "heal"
  | .combatBuff => "combat_buff"
  | .combat => "combat"

variable {ε : Type}

def engage (routine : CombatRoutine ε) (decision : Guid → Decision) (p : Progress ε) :
    Option Creature → Status × Progress ε
  | none => (.failure, p)
  | some creature =>
      match p.target routine creature.guid with
      | (true, p') => (.success, p'.record (decision creature.guid))
      | (false, p') => (.failure, p')

def delegate (routine : CombatRoutine ε) (part : RoutinePart) (p : Progress ε) :
    Status × Progress ε :=
  match p.perform routine part with
  | (.failure, p') => (.failure, p')
  | (status, p') => (status, p'.record (.routine part))

def perform (routine : CombatRoutine ε) (scene : Scene) (p : Progress ε) :
    Move → Status × Progress ε
  | .complete => (.success, p.markDone.record .complete)
  | .excludeCandidate =>
      match scene.seen.candidate with
      | none => (.failure, p)
      | some creature =>
          (.success, (p.exclude routine creature.guid scene.now).record (.exclude creature.guid))
  | .targetPriority => engage routine .engagePriority p scene.seen.priority
  | .flushExclusions => (.success, (p.flush routine).record .flushExclusions)
  | .targetBoss => engage routine .engageBoss p scene.seen.boss
  | .heal => delegate routine .heal p
  | .combatBuff => delegate routine .combatBuff p
  | .combat => delegate routine .combat p

end Move

end Encounter
