import Encounter.Config.Basic
import Encounter.Text.Blank
import Encounter.Text.Decimal

/-!
# Configurations from attributes

A quest profile gives the parameters of an encounter as a map from names to texts.  Single
parameters have names of their own; the two ranked lists are spread over numbered attributes, a
stem and digits, and are put together in the order of those numbers.  Names that mean nothing here
are passed over.
-/

namespace Encounter

structure Attributes where
  entries : List (String × String)
  nodup_keys : (entries.map Prod.fst).Nodup

namespace Attributes

def empty : Attributes where
  entries := []
  nodup_keys := List.nodup_nil

instance : Inhabited Attributes := ⟨empty⟩

def get? (m : Attributes) (key : String) : Option String :=
  (m.entries.find? (·.1 == key)).map Prod.snd

def insert (m : Attributes) (key value : String) : Attributes where
  entries := m.entries.filter (·.1 != key) ++ [(key, value)]
  nodup_keys := by
    have hrest : ((m.entries.filter (·.1 != key)).map Prod.fst).Nodup :=
      m.nodup_keys.sublist (List.filter_sublist.map _)
    rw [List.map_append, List.nodup_append]
    refine ⟨hrest, by simp, ?_⟩
    intro a ha b hb
    simp only [List.map_cons, List.map_nil, List.mem_singleton] at hb
    obtain ⟨entry, hentry, rfl⟩ := List.mem_map.mp ha
    have hne := (List.mem_filter.mp hentry).2
    subst hb
    simpa using hne

/-- The map of a list of names and texts; of a repeated name the last text counts. -/
def ofList (entries : List (String × String)) : Attributes :=
  entries.foldl (fun m entry => m.insert entry.1 entry.2) empty

end Attributes

namespace Config

def blacklistStem : String := "BlacklistMob"

def killOrderStem : String := "KillOrder"

def bossNames : List String := ["BossId", "NpcId", "NpcID"]

def auraName : String := "AuraId"

def ignoreName : String := "IgnoreBoss"

/-- Reads a positive id: decimal digits, perhaps behind a plus sign and between blanks. -/
def readId (field value : String) : Except ConfigError UInt32 :=
  match Text.Decimal.signedBelow? UInt32.size (Text.trim value.toList) with
  | none => .error (.invalid field value .notAnId)
  | some 0 => .error (.invalid field value .notPositive)
  | some (n + 1) => .ok (UInt32.ofNat (n + 1))

def readBool (field value : String) : Except ConfigError Bool :=
  let word := (Text.trim value.toList).map Char.toLower
  if word = "true".toList then .ok true
  else if word = "false".toList then .ok false
  else .error (.invalid field value .notABoolean)

structure Slot where
  index : Nat
  key : String
  kind : Kind
  deriving DecidableEq, Repr

namespace Slot

def index? (stem key : String) : Option Nat :=
  (stem.toList.isPrefixOf? key.toList).bind (Text.Decimal.below? UInt32.size)

def le (s t : Slot) : Bool :=
  s.index < t.index || (s.index == t.index && decide (s.key ≤ t.key))

/-- Reads one attribute of the list with a given stem; passes over any other. -/
def read (stem : String) (entry : String × String) : Option (Except ConfigError Slot) :=
  (index? stem entry.1).map fun index =>
    (readId entry.1 entry.2).map fun id => { index, key := entry.1, kind := ⟨id⟩ }

/-- The second of the first two neighbours that claim one number. -/
def firstClash? : List Slot → Option Slot
  | s :: t :: rest => if s.index = t.index then some t else firstClash? (t :: rest)
  | _ => none

/-- The kinds of a list in the order of its slots, unless two slots claim one number. -/
def ranked (slots : List Slot) : Except ConfigError (List Kind) :=
  let sorted := slots.mergeSort le
  match firstClash? sorted with
  | some slot => .error (.invalid slot.key slot.kind.text .indexTaken)
  | none => .ok (sorted.map kind)

end Slot

/-- The slots of the two lists, in the order in which they are read. -/
structure Slots where
  blacklist : List Slot := []
  killOrder : List Slot := []
  deriving DecidableEq, Repr

/-- Adds the slot that an attribute is, if it is one, to the list it belongs to. -/
def Slots.add (slots : Slots) (entry : String × String) : Except ConfigError Slots :=
  match Slot.read blacklistStem entry, Slot.read killOrderStem entry with
  | some answer, _ =>
      answer.map fun slot => { slots with blacklist := slots.blacklist ++ [slot] }
  | none, some answer =>
      answer.map fun slot => { slots with killOrder := slots.killOrder ++ [slot] }
  | none, none => .ok slots

/-- Reads the numbered attributes in the order of the map, up to the first that is malformed. -/
def readSlots (m : Attributes) : Except ConfigError Slots :=
  m.entries.foldlM Slots.add {}

def readBoss (m : Attributes) : Except ConfigError Kind :=
  match bossNames.findSome? fun name => (m.get? name).map (name, ·) with
  | none => .error (.missing "BossId")
  | some (name, value) => (readId name value).map Kind.mk

def readAura (m : Attributes) : Except ConfigError Aura :=
  match m.get? auraName with
  | none => .ok ⟨0⟩
  | some value => (readId auraName value).map Aura.mk

def readIgnoreBoss (m : Attributes) : Except ConfigError Bool :=
  match m.get? ignoreName with
  | none => .ok false
  | some value => readBool ignoreName value

/-- Reads a configuration from attributes.  Malformed slots are reported before anything else and
clashes between slots after everything else. -/
def ofAttributes (m : Attributes) : Except ConfigError Config := do
  let slots ← readSlots m
  let boss ← readBoss m
  let aura ← readAura m
  let ignoreBoss ← readIgnoreBoss m
  let blacklist ← Slot.ranked slots.blacklist
  let killOrder ← Slot.ranked slots.killOrder
  return { boss, aura, ignoreBoss, blacklist, killOrder }

end Config

end Encounter
