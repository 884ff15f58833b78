import Encounter.Config.Attributes
import Encounter.Config.Document
import Encounter.World.Basic

/-!
# Encounter scripts

A script holds the attributes of a task and the world as it is seen on each tick.  One that is read
from a document has at least one frame.
-/

namespace Encounter

namespace Document.Decoder

def guid : Decoder Guid := fun ext value =>
  (word64 ext value).map Guid.mk

def timestamp : Decoder Timestamp := fun ext value =>
  (word64 ext value).map Timestamp.mk

def creature : Decoder Creature := fun ext value => do
  let fields ← fields "Unit" ext value
  let guid ← required ext fields "guid" guid
  let kind ← required ext fields "entry" kind
  let alive ← optionally ext fields "alive" bool true
  let distance ← required ext fields "distance" distance
  let auras ← optionally ext fields "auras" (list aura) []
  return { guid, kind, alive, distance, auras }

def world : Decoder World := fun ext value => do
  let fields ← fields "WorldSnapshot" ext value
  let now ← optionally ext fields "now" timestamp Timestamp.zero
  let target ← optionally ext fields "current_target" (optional guid) none
  let creatures ← optionally ext fields "units" (list creature) []
  return { now, target, creatures }

end Document.Decoder

structure Script where
  attributes : Attributes := Attributes.empty
  frames : List World

inductive ScriptError where
  | malformed
  | noFrames
  deriving DecidableEq, Repr

def ScriptError.message : ScriptError → String
  | .malformed => "failed to parse encounter script"
  | .noFrames => "encounter script has no frames"

inductive ScriptFileError where
  | unreadable (path : String)
  | refused (path : String) (cause : ScriptError)
  deriving DecidableEq, Repr

def ScriptFileError.message : ScriptFileError → String
  | .unreadable path => "failed to read " ++ path
  | .refused path cause => "in " ++ path ++ ": " ++ cause.message

namespace Document.Decoder

def script : Decoder Script := fun ext value => do
  let fields ← fields "Script" ext value
  let entries ← optionally ext fields "attributes" textMap []
  let frames ← required ext fields "frames" (list world)
  return { attributes := Attributes.ofList entries, frames }

end Document.Decoder

namespace Script

def ofDocument (document : String) : Except ScriptError Script :=
  match (Document.read? document).bind fun (ext, value) => Document.Decoder.script ext value with
  | none => .error .malformed
  | some script => if script.frames.isEmpty then .error .noFrames else .ok script

def ofFile (path : String) (content : Option ByteArray) : Except ScriptFileError Script :=
  match content.bind String.fromUTF8? with
  | none => .error (.unreadable path)
  | some document => (ofDocument document).mapError (.refused path)

end Script

end Encounter
