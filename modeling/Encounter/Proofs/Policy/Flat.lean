import Encounter.CombatRoutine
import Encounter.Completion
import Encounter.Config.Basic
import Encounter.Exclusions
import Encounter.Policy.Decision
import Encounter.Proofs.World.Foremost
import Mathlib.Algebra.Group.Nat.Defs

/-!
# The policy as five cases

`FlatPolicy.verdict` is the policy without a tree: five cases in a fixed order, stated on the world
itself.  Two of the cases put a list of attempts to the combat routine, which end at the first that
is not in vain; if all of them are, the next case has its turn.
-/

namespace Encounter

variable {ε : Type}

/-- A request of the combat routine that may be in vain.  One for a target carries the decision
that it makes when it is accepted. -/
inductive Attempt where
  | target (guid : Guid) (decision : Decision)
  | perform (part : RoutinePart)
  deriving DecidableEq, Repr

structure Bout (ε : Type) where
  settled : Option (Status × Decision) := none
  env : ε
  calls : List CombatCall := []

def Bout.after (call : CombatCall) (bout : Bout ε) : Bout ε :=
  { bout with calls := call :: bout.calls }

/-- Makes attempts in order, up to the first that is not in vain. -/
def CombatRoutine.attempt (routine : CombatRoutine ε) : List Attempt → ε → Bout ε
  | [], env => { env }
  | .target guid decision :: rest, env =>
      match routine.target guid env with
      | (true, env') =>
          { settled := some (.success, decision), env := env', calls := [.target guid true] }
      | (false, env') => (routine.attempt rest env').after (.target guid false)
  | .perform part :: rest, env =>
      match routine.perform part env with
      | (.failure, env') => (routine.attempt rest env').after (.perform part .failure)
      | (status, env') =>
          { settled := some (status, .routine part), env := env', calls := [.perform part status] }

structure Verdict (ε : Type) where
  status : Status
  decision : Option Decision
  exclusions : Exclusions
  isDone : Bool
  env : ε
  calls : List CombatCall

namespace FlatPolicy

variable (config : Config) (world : World) (exclusions : Exclusions)

def boss : Option Creature :=
  world.creatures.find? (·.kind == config.boss)

def priority : Option Creature :=
  Query.foremost world.creatures config.killOrder fun _ => true

/-- The nearest creature of the blacklist, by rank, among those of another kind than the boss's
that are excluded now, or among those that are not. -/
def blacklisted (excluded : Bool) : Option Creature :=
  Query.foremost world.creatures config.blacklist fun c =>
    c.kind != config.boss && exclusions.contains c.guid world.now == excluded

def target : Option Creature :=
  world.target.bind fun guid => world.creatures.find? (·.guid == guid)

def expiry : Timestamp :=
  ⟨UInt64.ofNat (min (world.now.millis.toNat + 300000) (2 ^ 64 - 1))⟩

def parts : List Attempt :=
  [.perform .heal, .perform .combatBuff, .perform .combat]

def priorityAttempts : List Attempt :=
  match priority config world with
  | none => parts
  | some p =>
      if (target world).map Creature.guid ≠ some p.guid ∨ (target world).any Creature.isDead then
        .target p.guid (.engagePriority p.guid) :: parts
      else
        parts

def bossAttempts (boss : Creature) : List Attempt :=
  if (target world).map Creature.guid ≠ some boss.guid then
    .target boss.guid (.engageBoss boss.guid) :: parts
  else
    parts

def windowOpen (boss : Creature) : Bool :=
  ((priority config world).isSome && boss.hasAura config.aura) || config.ignoreBoss

def settle (calls : List CombatCall) (bout : Bout ε) : Verdict ε where
  status := bout.settled.elim .failure Prod.fst
  decision := bout.settled.map Prod.snd
  exclusions := exclusions
  isDone := false
  env := bout.env
  calls := calls ++ bout.calls

/-- The verdict on a living boss when no creature of the blacklist is left to be excluded. -/
def engage (routine : CombatRoutine ε) (boss : Creature) (env : ε) : Verdict ε :=
  let opening := routine.attempt
    (if windowOpen config world boss then priorityAttempts config world else []) env
  if opening.settled.isSome then
    settle exclusions [] opening
  else if (blacklisted config world exclusions true).isSome ∧ priority config world = none then
    { status := .success
      decision := some .flushExclusions
      exclusions := Exclusions.empty
      isDone := false
      env := routine.flush opening.env
      calls := opening.calls ++ [.flush] }
  else
    settle exclusions opening.calls <| routine.attempt
      (if boss.hasAura config.aura then [] else bossAttempts world boss) opening.env

/-- What one tick on `world` comes to. -/
def verdict (routine : CombatRoutine ε) (env : ε) : Verdict ε :=
  match (boss config world).filter Creature.alive with
  | none =>
      { status := .success
        decision := some .complete
        exclusions := exclusions
        isDone := true
        env := env
        calls := [] }
  | some boss =>
      match blacklisted config world exclusions false with
      | some c =>
          { status := .success
            decision := some (.exclude c.guid)
            exclusions := (exclusions.prune world.now).insert c.guid (expiry world)
            isDone := false
            env := routine.exclude c.guid (expiry world) env
            calls := [.exclude c.guid (expiry world)] }
      | none => engage config world exclusions routine boss env

end FlatPolicy

end Encounter
