import Encounter.Config.Basic
import Encounter.Exclusions
import Encounter.World.Query

/-!
# What a tick looks at

The creatures that decisions are about are looked up once, before the tree is run, and stay what
they are for the whole tick, whatever its moves do.
-/

namespace Encounter

structure Sightings where
  boss : Option Creature
  priority : Option Creature
  /-- The nearest living creature of the blacklist, by rank, that is neither the boss's kind nor
  excluded. -/
  candidate : Option Creature
  /-- The nearest living creature of the blacklist, by rank, that is not the boss's kind but is
  excluded. -/
  excluded : Option Creature
  target : Option Creature
  deriving DecidableEq, Repr

namespace Sightings

def observe (config : Config) (world : World) (exclusions : Exclusions) (now : Timestamp) :
    Sightings where
  boss := Query.firstOfKind world.creatures config.boss
  priority := Query.nearest world.creatures config.killOrder
  candidate := Query.nearestWhere world.creatures config.blacklist fun c =>
    c.kind != config.boss && !exclusions.contains c.guid now
  excluded := Query.nearestWhere world.creatures config.blacklist fun c =>
    c.kind != config.boss && exclusions.contains c.guid now
  target := world.target.bind (Query.withGuid world.creatures)

def targetGuid (seen : Sightings) : Option Guid :=
  seen.target.map Creature.guid

end Sightings

end Encounter
