import Encounter.Config.Basic
import Encounter.Document.Field

/-!
# Configurations from documents

A configuration may be written as a record.  Only the kind of the boss has to be there; the rule
that kinds are positive is applied once the whole document has been read.
-/

namespace Encounter

namespace Document.Decoder

def kind : Decoder Kind := fun ext value =>
  (word32 ext value).map Kind.mk

def aura : Decoder Aura := fun ext value =>
  (word32 ext value).map Aura.mk

def config : Decoder Config := fun ext value => do
  let fields ← fields "EncounterConfig" ext value
  let aura ← optionally ext fields "aura_id" aura ⟨0⟩
  let boss ← required ext fields "boss_id" kind
  let ignoreBoss ← optionally ext fields "ignore_boss" bool false
  let blacklist ← optionally ext fields "blacklist_mobs" (list kind) []
  let killOrder ← optionally ext fields "kill_order" (list kind) []
  return { aura, boss, ignoreBoss, blacklist, killOrder }

end Document.Decoder

namespace Config

def describedBy? (document : String) : Option Config :=
  (Document.read? document).bind fun (ext, value) => Document.Decoder.config ext value

def ofDocument (document : String) : Except ConfigError Config :=
  match describedBy? document with
  | none => .error .unreadableDocument
  | some config => config.validate

def ofFile (content : Option ByteArray) : Except ConfigError Config :=
  match content.bind String.fromUTF8? with
  | none => .error .unreadableFile
  | some document => ofDocument document

end Config

end Encounter
