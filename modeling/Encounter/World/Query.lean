import Encounter.World.Basic

/-!
# Finding creatures

Searches by kind go by rank before distance: the kinds are tried in the order given, and the first
kind with any eligible creature yields its nearest one, the earliest listed of those equally near.
Ranks are never merged, so a far creature of an early kind is preferred to a near one of a later
kind.
-/

namespace Encounter

/-- A creature that a search by distance may yield for `kind`. -/
def Creature.isCandidate (kind : Kind) (accept : Creature → Bool) (c : Creature) : Bool :=
  c.kind == kind && c.alive && c.distance.isFinite && accept c

namespace Query

def nearestOfKind (creatures : List Creature) (accept : Creature → Bool) (kind : Kind) :
    Option Creature :=
  (creatures.filter (·.isCandidate kind accept)).minOn? (·.distance.rank)

/-- The nearest living creature that `accept` admits, of the first kind that has any. -/
def nearestWhere (creatures : List Creature) (kinds : List Kind)
    (accept : Creature → Bool) : Option Creature :=
  kinds.findSome? (nearestOfKind creatures accept)

def nearest (creatures : List Creature) (kinds : List Kind) : Option Creature :=
  nearestWhere creatures kinds fun _ => true

def firstOfKind (creatures : List Creature) (kind : Kind) : Option Creature :=
  creatures.find? (·.kind == kind)

def withGuid (creatures : List Creature) (guid : Guid) : Option Creature :=
  creatures.find? (·.guid == guid)

end Query

end Encounter
