import Encounter.World.Basic

/-!
# Playing frames back

A reel hands out the frames of a script, one for each snapshot, and then repeats the last one.
Handing out the last frame also requests a stop.  The player's own target, once there is one, takes
the place of the one in the frame, in what is handed out and never in the reel.
-/

namespace Encounter

structure Reel where
  pending : List World
  /-- The frame handed out last, the empty world before the first. -/
  last : World := World.empty
  stopRequested : Bool := false
  deriving Repr

namespace Reel

def advance (reel : Reel) : Reel where
  pending := reel.pending.tail
  last := reel.pending.head?.getD reel.last
  stopRequested := reel.stopRequested || reel.pending.tail.isEmpty

def snapshot (reel : Reel) (target : Option Guid) : World × Reel :=
  (reel.advance.last.retarget target, reel.advance)

end Reel

end Encounter
