import Encounter.World.Identity
import Encounter.World.Clock
import Encounter.World.Distance

/-!
# The world as seen on one tick

A `World` is what the host shows of the game at one clock reading: every creature that it knows of,
dead ones included, in the host's order, and the identity that the player has targeted.  That
identity need not belong to a creature on the list, and identities on the list may repeat.
-/

namespace Encounter

structure Creature where
  guid : Guid
  kind : Kind
  distance : Distance
  alive : Bool := true
  auras : List Aura := []
  deriving DecidableEq, Repr, Inhabited

namespace Creature

def isDead (c : Creature) : Bool :=
  !c.alive

def hasAura (c : Creature) (aura : Aura) : Bool :=
  c.auras.contains aura

end Creature

structure World where
  now : Timestamp := Timestamp.zero
  target : Option Guid := none
  creatures : List Creature := []
  deriving DecidableEq, Repr, Inhabited

namespace World

def empty : World := {}

def retarget (w : World) (target : Option Guid) : World :=
  { w with target := target.or w.target }

end World

end Encounter
