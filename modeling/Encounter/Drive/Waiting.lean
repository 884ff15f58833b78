import Encounter.Drive

/-!
# Waiting for a stop or for a tick

Between two ticks a drive waits for two things at once, a stop on its channel and the next beat of
an interval, and goes on with whichever comes first.  All that is known of such a wait is what it
answers when it is polled.  Here the two are polled again and again, the stop before the beat, and a
poll to which neither has come leaves the drive where it is.
-/

namespace Encounter

variable {ε : Type}

/-- What polling something that is waited for comes to. -/
inductive Poll (ρ : Type) where
  | ready (value : ρ)
  | pending
  deriving DecidableEq, Repr

/-- The channel on which a stop is requested: whether it has been, and whether the handle is still
held by which it can be. -/
structure StopChannel where
  requested : Bool := false
  held : Bool := true
  deriving DecidableEq, Repr

namespace StopChannel

/-- A handle that has been dropped requests nothing. -/
def request (channel : StopChannel) : StopChannel :=
  { channel with requested := channel.requested || channel.held }

/-- Waits for the request, and in vain once the handle has been dropped without one. -/
def requestWait (channel : StopChannel) : Poll (Except PUnit PUnit) :=
  if channel.requested then .ready (.ok ⟨⟩)
  else if channel.held then .pending
  else .ready (.error ⟨⟩)

/-- Waits for a stop.  To have waited in vain for the request is no stop, and is waited out for
ever. -/
def stopWait (channel : StopChannel) : Poll PUnit :=
  match channel.requestWait with
  | .ready (.ok _) => .ready ⟨⟩
  | .ready (.error _) | .pending => .pending

end StopChannel

inductive Wakeup where
  | stop
  | beat
  deriving DecidableEq, Repr

/-- Polls two waits in this order, the second only if the first is still pending. -/
def Wakeup.select (stop beat : Poll PUnit) : Poll Wakeup :=
  match stop with
  | .ready _ => .ready .stop
  | .pending =>
      match beat with
      | .ready _ => .ready .beat
      | .pending => .pending

def Surroundings.channel (around : Surroundings ε) (held : ε → Bool) (env : ε) : StopChannel where
  requested := around.stopRequested env
  held := held env

namespace Drive

variable (around : Surroundings ε) (held : ε → Bool) (beats : Nat → Poll PUnit)

/-- One poll of a drive that waits. -/
def poll (beat : Poll PUnit) (d : Drive ε) : Drive ε :=
  if d.ending.isSome then d
  else
    match Wakeup.select (around.channel held d.env).stopWait beat with
    | .ready .stop => d.halt around
    | .ready .beat => d.advance around
    | .pending => d

/-- The drive after a number of polls, to which the interval has answered as `beats` tells. -/
def polled (d : Drive ε) : Nat → Drive ε
  | 0 => d
  | n + 1 => (polled d n).poll around held (beats n)

end Drive

end Encounter
