import Encounter.World.Identity

/-!
# Encounter configuration

What the task has to know of one encounter, and the rule that every kind in it is positive.  The
rule and every reader of configurations report what is wrong as a `ConfigError`, a cause that knows
its wording.
-/

namespace Encounter

inductive Fault where
  | notAnId
  | notPositive
  | notABoolean
  | indexTaken
  deriving DecidableEq, Repr

def Fault.message : Fault → String
  | .notAnId => "expected a positive integer id"
  | .notPositive => "ids must be positive"
  | .notABoolean => "expected `true` or `false`"
  | .indexTaken => "index already used by another attribute"

inductive ConfigError where
  | missing (field : String)
  | invalid (field value : String) (fault : Fault)
  | unreadableDocument
  | unreadableFile
  deriving DecidableEq, Repr

namespace ConfigError

def message : ConfigError → String
  | .missing field => "required attribute `" ++ field ++ "` is missing"
  | .invalid field value fault =>
      "attribute `" ++ field ++ "` has invalid value `" ++ value ++ "`: " ++ fault.message
  | .unreadableDocument => "failed to parse encounter config"
  | .unreadableFile => "failed to read encounter config"

def field? : ConfigError → Option String
  | .missing field => some field
  | .invalid field _ _ => some field
  | .unreadableDocument | .unreadableFile => none

end ConfigError

structure Config where
  boss : Kind
  /-- The effect on the boss that opens the window for priority kills. -/
  aura : Aura := ⟨0⟩
  ignoreBoss : Bool := false
  blacklist : List Kind := []
  killOrder : List Kind := []
  deriving DecidableEq, Repr

namespace Config

def zeroField? (c : Config) : Option String :=
  if c.boss.val = 0 then some "boss_id"
  else if c.blacklist.any (·.val == 0) then some "blacklist_mobs"
  else if c.killOrder.any (·.val == 0) then some "kill_order"
  else none

def validate (c : Config) : Except ConfigError Config :=
  match c.zeroField? with
  | some field => .error (.invalid field "0" .notPositive)
  | none => .ok c

def isValid (c : Config) : Bool :=
  c.zeroField?.isNone

end Config

end Encounter
