import Encounter.Config.Attributes
import Encounter.Proofs.Text.Denotation
import Encounter.Proofs.World.Expiry

/-!
# What the readers of attributes accept

Each reader of attributes is met here with what it answers: an id is accepted for the number its
text stands for, a numbered attribute for the place its digits stand for, and of the names for the
boss the first that is present counts.  A reader that refuses tells what is wrong with its text.
The two ranked lists are read in one pass, which ends at the first attribute that is malformed.
-/

namespace Encounter

section Answers

variable {ε α β : Type} {answer : Except ε α} {f : α → β} {next : α → Except ε β} {e : ε} {b : β}

theorem map_eq_ok_iff : answer.map f = .ok b ↔ ∃ a, answer = .ok a ∧ f a = b := by
  cases answer <;> simp [Except.map]

theorem map_eq_error_iff : answer.map f = .error e ↔ answer = .error e := by
  cases answer <;> simp [Except.map]

theorem bind_eq_ok_iff : answer >>= next = .ok b ↔ ∃ a, answer = .ok a ∧ next a = .ok b := by
  cases answer <;> simp [bind, Except.bind]

theorem bind_eq_error_iff :
    answer >>= next = .error e ↔ answer = .error e ∨ ∃ a, answer = .ok a ∧ next a = .error e := by
  cases answer <;> simp [bind, Except.bind]

end Answers

namespace Attributes

variable {m : Attributes} {key value : String}

theorem get?_eq_some_iff : m.get? key = some value ↔ (key, value) ∈ m.entries := by
  constructor
  · intro h
    obtain ⟨entry, hfind, rfl⟩ := Option.map_eq_some_iff.mp h
    have hkey : entry.1 = key := by simpa using List.find?_some hfind
    rw [← hkey]
    exact List.mem_of_find?_eq_some hfind
  · intro hmem
    rw [get?, find?_eq_of_nodup_map m.nodup_keys hmem]
    rfl

theorem get?_eq_none_iff : m.get? key = none ↔ ∀ value, (key, value) ∉ m.entries := by
  simp only [Option.eq_none_iff_forall_ne_some, ne_eq, get?_eq_some_iff]

theorem value_unique (m : Attributes) {value' : String} (h : (key, value) ∈ m.entries)
    (h' : (key, value') ∈ m.entries) : value = value' := by
  rw [← get?_eq_some_iff] at h h'
  exact Option.some.inj (h.symm.trans h')

end Attributes

namespace Config

/-! ## Ids and truth values -/

/-- `value` stands for the id `id`, which is positive. -/
structure WritesId (value : String) (id : UInt32) : Prop where
  number : Text.WritesNumber value id.toNat
  ne_zero : id ≠ 0

/-- What is wrong with a text that stands for no positive id. -/
inductive IdFault (value : String) : Fault → Prop
  | notAnId (h : ∀ n, Text.WritesNumber value n → UInt32.size ≤ n) : IdFault value .notAnId
  | notPositive (h : Text.WritesNumber value 0) : IdFault value .notPositive

theorem WritesId.unique {value : String} {id id' : UInt32} (h : WritesId value id)
    (h' : WritesId value id') : id = id' :=
  UInt32.toNat_inj.mp (h.number.unique h'.number)

theorem WritesId.not_idFault {value : String} {id : UInt32} {fault : Fault}
    (h : WritesId value id) : ¬ IdFault value fault := by
  rintro (hnone | hzero)
  · exact absurd id.toNat_lt (Nat.not_lt.mpr (hnone _ h.number))
  · exact h.ne_zero (UInt32.toNat_inj.mp (h.number.unique hzero))

/-- What reading an id comes to. -/
theorem readId_cases (field value : String) :
    (∃ id, WritesId value id ∧ readId field value = .ok id) ∨
      ∃ fault, IdFault value fault ∧ readId field value = .error (.invalid field value fault) := by
  unfold readId
  split
  case h_1 hread =>
      refine .inr ⟨.notAnId, .notAnId fun n hn => Nat.not_lt.mp fun hlt => ?_, rfl⟩
      rw [Text.signedBelow?_trim_eq_some_iff.mpr ⟨hn, hlt⟩] at hread
      cases hread
  case h_2 hread =>
      exact .inr ⟨.notPositive, .notPositive (Text.signedBelow?_trim_eq_some_iff.mp hread).1, rfl⟩
  case h_3 n hread =>
      obtain ⟨hnumber, hlt⟩ := Text.signedBelow?_trim_eq_some_iff.mp hread
      have htoNat : (UInt32.ofNat (n + 1)).toNat = n + 1 := UInt32.toNat_ofNat_of_lt' hlt
      refine .inl ⟨_, ⟨by rwa [htoNat], fun hzero => ?_⟩, rfl⟩
      rw [hzero] at htoNat
      cases htoNat

theorem readId_eq_ok_iff {field value : String} {id : UInt32} :
    readId field value = .ok id ↔ WritesId value id := by
  obtain ⟨id', hwrites, hread⟩ | ⟨fault, hfault, hread⟩ := readId_cases field value
  · rw [hread, Except.ok.injEq]
    exact ⟨fun h => h ▸ hwrites, hwrites.unique⟩
  · rw [hread]
    exact ⟨nofun, fun h => absurd hfault h.not_idFault⟩

theorem IdFault.unique {value : String} {fault fault' : Fault} (h : IdFault value fault)
    (h' : IdFault value fault') : fault = fault' := by
  cases h with
  | notAnId hnone =>
      cases h' with
      | notAnId => rfl
      | notPositive hzero => exact absurd (hnone 0 hzero) (by decide)
  | notPositive hzero =>
      cases h' with
      | notAnId hnone => exact absurd (hnone 0 hzero) (by decide)
      | notPositive => rfl

theorem readId_eq_error_iff {field value : String} {e : ConfigError} :
    readId field value = .error e ↔
      ∃ fault, IdFault value fault ∧ e = .invalid field value fault := by
  obtain ⟨id, hwrites, hread⟩ | ⟨fault, hfault, hread⟩ := readId_cases field value
  · rw [hread]
    exact ⟨nofun, fun ⟨_, hfault, _⟩ => absurd hfault hwrites.not_idFault⟩
  · constructor
    · intro h
      exact ⟨fault, hfault, Except.error.inj (h.symm.trans hread)⟩
    · rintro ⟨fault', hfault', rfl⟩
      rw [hread, hfault.unique hfault']

theorem readBool_cases (field value : String) :
    (∃ b, Text.WritesBool value b ∧ readBool field value = .ok b) ∨
      (∀ b, ¬ Text.WritesBool value b) ∧
        readBool field value = .error (.invalid field value .notABoolean) := by
  simp only [Text.writesBool_iff, readBool]
  split
  case isTrue htrue => exact .inl ⟨true, htrue, rfl⟩
  case isFalse htrue =>
      split
      case isTrue hfalse => exact .inl ⟨false, hfalse, rfl⟩
      case isFalse hfalse =>
          refine .inr ⟨fun b hb => ?_, rfl⟩
          cases b with
          | true => exact htrue hb
          | false => exact hfalse hb

theorem readBool_eq_ok_iff {field value : String} {b : Bool} :
    readBool field value = .ok b ↔ Text.WritesBool value b := by
  obtain ⟨b', hwrites, hread⟩ | ⟨hnone, hread⟩ := readBool_cases field value
  · rw [hread, Except.ok.injEq]
    exact ⟨fun h => h ▸ hwrites, hwrites.unique⟩
  · rw [hread]
    exact ⟨nofun, fun h => absurd h (hnone b)⟩

theorem readBool_eq_error_iff {field value : String} {e : ConfigError} :
    readBool field value = .error e ↔
      (∀ b, ¬ Text.WritesBool value b) ∧ e = .invalid field value .notABoolean := by
  obtain ⟨b, hwrites, hread⟩ | ⟨hnone, hread⟩ := readBool_cases field value
  · rw [hread]
    exact ⟨nofun, fun h => absurd hwrites (h.1 b)⟩
  · rw [hread, Except.error.injEq]
    exact ⟨fun h => ⟨hnone, h.symm⟩, fun h => h.2.symm⟩

/-! ## Single attributes -/

/-- `name` is the first of the names for the boss that is present, with the text `value`. -/
def NamesBoss (m : Attributes) (name value : String) : Prop :=
  ∃ before after, bossNames = before ++ name :: after ∧ (name, value) ∈ m.entries ∧
    ∀ other ∈ before, ∀ text, (other, text) ∉ m.entries

variable {m : Attributes}

theorem findSome?_bossNames_eq_some_iff {name value : String} :
    (bossNames.findSome? fun name => (m.get? name).map (name, ·)) = some (name, value) ↔
      NamesBoss m name value := by
  rw [List.findSome?_eq_some_iff]
  constructor
  · rintro ⟨before, other, after, hnames, hother, hbefore⟩
    obtain ⟨text, htext, heq⟩ := Option.map_eq_some_iff.mp hother
    obtain ⟨rfl, rfl⟩ := Prod.mk.inj heq
    refine ⟨before, after, hnames, Attributes.get?_eq_some_iff.mp htext, fun absent hmem => ?_⟩
    exact Attributes.get?_eq_none_iff.mp (Option.map_eq_none_iff.mp (hbefore absent hmem))
  · rintro ⟨before, after, hnames, hentry, hbefore⟩
    refine ⟨before, name, after, hnames, ?_, fun absent hmem => ?_⟩
    · rw [Attributes.get?_eq_some_iff.mpr hentry]
      rfl
    · rw [Attributes.get?_eq_none_iff.mpr (hbefore absent hmem)]
      rfl

theorem findSome?_bossNames_eq_none_iff :
    (bossNames.findSome? fun name => (m.get? name).map (name, ·)) = none ↔
      ∀ name ∈ bossNames, ∀ value, (name, value) ∉ m.entries := by
  simp only [List.findSome?_eq_none_iff, Option.map_eq_none_iff, Attributes.get?_eq_none_iff]

theorem NamesBoss.unique {name name' value value' : String} (h : NamesBoss m name value)
    (h' : NamesBoss m name' value') : name = name' ∧ value = value' := by
  rw [← findSome?_bossNames_eq_some_iff] at h h'
  exact Prod.mk.inj (Option.some.inj (h.symm.trans h'))

theorem NamesBoss.readBoss_eq {name value : String} (h : NamesBoss m name value) :
    readBoss m = (readId name value).map Kind.mk := by
  rw [readBoss, findSome?_bossNames_eq_some_iff.mpr h]

theorem readBoss_of_unnamed (h : ∀ name ∈ bossNames, ∀ value, (name, value) ∉ m.entries) :
    readBoss m = .error (.missing "BossId") := by
  rw [readBoss, findSome?_bossNames_eq_none_iff.mpr h]

theorem namesBoss_or_unnamed (m : Attributes) :
    (∃ name value, NamesBoss m name value) ∨
      ∀ name ∈ bossNames, ∀ value, (name, value) ∉ m.entries := by
  cases hfind : bossNames.findSome? fun name => (m.get? name).map (name, ·) with
  | none => exact .inr (findSome?_bossNames_eq_none_iff.mp hfind)
  | some named => exact .inl ⟨named.1, named.2, findSome?_bossNames_eq_some_iff.mp hfind⟩

theorem NamesBoss.mem_bossNames {name value : String} (h : NamesBoss m name value) :
    name ∈ bossNames := by
  obtain ⟨before, after, hnames, -⟩ := h
  rw [hnames]
  exact List.mem_append_right before List.mem_cons_self

theorem NamesBoss.mem_entries {name value : String} (h : NamesBoss m name value) :
    (name, value) ∈ m.entries := by
  obtain ⟨before, after, -, hentry, -⟩ := h
  exact hentry

theorem readBoss_eq_ok_iff {boss : Kind} :
    readBoss m = .ok boss ↔ ∃ name value, NamesBoss m name value ∧ WritesId value boss.val := by
  obtain ⟨name, value, hnames⟩ | hnone := namesBoss_or_unnamed m
  · rw [hnames.readBoss_eq, map_eq_ok_iff]
    constructor
    · rintro ⟨id, hread, rfl⟩
      exact ⟨name, value, hnames, readId_eq_ok_iff.mp hread⟩
    · rintro ⟨name', value', hnames', hwrites⟩
      obtain ⟨rfl, rfl⟩ := hnames.unique hnames'
      exact ⟨boss.val, readId_eq_ok_iff.mpr hwrites, rfl⟩
  · rw [readBoss_of_unnamed hnone]
    refine ⟨nofun, fun ⟨name, value, hnames, _⟩ => ?_⟩
    exact absurd hnames.mem_entries (hnone name hnames.mem_bossNames value)

theorem readBoss_eq_error_iff {e : ConfigError} :
    readBoss m = .error e ↔
      (∀ name ∈ bossNames, ∀ value, (name, value) ∉ m.entries) ∧ e = .missing "BossId" ∨
      ∃ name value fault, NamesBoss m name value ∧ IdFault value fault ∧
        e = .invalid name value fault := by
  obtain ⟨name, value, hnames⟩ | hnone := namesBoss_or_unnamed m
  · rw [hnames.readBoss_eq, map_eq_error_iff, readId_eq_error_iff]
    constructor
    · rintro ⟨fault, hfault, he⟩
      exact .inr ⟨name, value, fault, hnames, hfault, he⟩
    · rintro (⟨hnone, -⟩ | ⟨name', value', fault, hnames', hfault, he⟩)
      · exact absurd hnames.mem_entries (hnone name hnames.mem_bossNames value)
      · obtain ⟨rfl, rfl⟩ := hnames.unique hnames'
        exact ⟨fault, hfault, he⟩
  · rw [readBoss_of_unnamed hnone, Except.error.injEq]
    constructor
    · rintro rfl
      exact .inl ⟨hnone, rfl⟩
    · rintro (⟨-, rfl⟩ | ⟨name, value, fault, hnames, -⟩)
      · rfl
      · exact absurd hnames.mem_entries (hnone name hnames.mem_bossNames value)

theorem readAura_eq_ok_iff {aura : Aura} :
    readAura m = .ok aura ↔
      (∃ value, (auraName, value) ∈ m.entries ∧ WritesId value aura.val) ∨
      (∀ value, (auraName, value) ∉ m.entries) ∧ aura = ⟨0⟩ := by
  obtain ⟨id⟩ := aura
  simp only [← Attributes.get?_eq_some_iff, readAura]
  cases m.get? auraName with
  | none => simp [eq_comm]
  | some value => simp [map_eq_ok_iff, readId_eq_ok_iff]

theorem readAura_eq_error_iff {e : ConfigError} :
    readAura m = .error e ↔
      ∃ value fault, (auraName, value) ∈ m.entries ∧ IdFault value fault ∧
        e = .invalid auraName value fault := by
  simp only [← Attributes.get?_eq_some_iff, readAura]
  cases m.get? auraName with
  | none => simp
  | some value => simp [map_eq_error_iff, readId_eq_error_iff]

theorem readIgnoreBoss_eq_ok_iff {b : Bool} :
    readIgnoreBoss m = .ok b ↔
      (∃ value, (ignoreName, value) ∈ m.entries ∧ Text.WritesBool value b) ∨
      (∀ value, (ignoreName, value) ∉ m.entries) ∧ b = false := by
  simp only [← Attributes.get?_eq_some_iff, readIgnoreBoss]
  cases m.get? ignoreName with
  | none => simp [eq_comm]
  | some value => simp [readBool_eq_ok_iff]

theorem readIgnoreBoss_eq_error_iff {e : ConfigError} :
    readIgnoreBoss m = .error e ↔
      ∃ value, (ignoreName, value) ∈ m.entries ∧ (∀ b, ¬ Text.WritesBool value b) ∧
        e = .invalid ignoreName value .notABoolean := by
  simp only [← Attributes.get?_eq_some_iff, readIgnoreBoss]
  cases m.get? ignoreName with
  | none => simp
  | some value => simp [readBool_eq_error_iff]

/-! ## Numbered attributes -/

/-- `key` is the attribute `n` of the list with the stem `stem`. -/
def Numbers (stem key : String) (n : ℕ) : Prop :=
  ∃ digits, key.toList = stem.toList ++ digits ∧ Text.Numeral digits n ∧ n < UInt32.size

/-- `key` is an attribute of one of the two lists. -/
def IsNumbered (key : String) : Prop :=
  ∃ n, Numbers blacklistStem key n ∨ Numbers killOrderStem key n

/-- `slot` is what `entry` is in the list with the stem `stem`. -/
structure IsSlot (stem : String) (entry : String × String) (slot : Slot) : Prop where
  key_eq : slot.key = entry.1
  numbers : Numbers stem entry.1 slot.index
  writesId : WritesId entry.2 slot.kind.val

/-- `entry` is an attribute of one of the lists, with no id for a text. -/
inductive Malformed (entry : String × String) : ConfigError → Prop
  | intro {fault : Fault} (hnumbered : IsNumbered entry.1) (hfault : IdFault entry.2 fault) :
      Malformed entry (.invalid entry.1 entry.2 fault)

theorem Slot.index?_eq_some_iff {stem key : String} {n : ℕ} :
    index? stem key = some n ↔ Numbers stem key n := by
  simp only [index?, Option.bind_eq_some_iff, List.isPrefixOf?_eq_some_iff_append_eq,
    Text.below?_eq_some_iff, Numbers]
  exact exists_congr fun digits => and_congr_left fun _ => eq_comm

theorem Numbers.unique {stem key : String} {n n' : ℕ} (h : Numbers stem key n)
    (h' : Numbers stem key n') : n = n' := by
  rw [← Slot.index?_eq_some_iff] at h h'
  exact Option.some.inj (h.symm.trans h')

theorem Numbers.not_killOrder {key : String} {n n' : ℕ} (h : Numbers blacklistStem key n) :
    ¬ Numbers killOrderStem key n' := by
  intro h'
  obtain ⟨digits, hkey, -⟩ := h
  obtain ⟨digits', hkey', -⟩ := h'
  have hhead : key.toList.head? = some 'B' := by rw [hkey]; rfl
  have hhead' : key.toList.head? = some 'K' := by rw [hkey']; rfl
  exact absurd (hhead.symm.trans hhead') (by decide)

theorem Slot.read_eq_none_iff {stem : String} {entry : String × String} :
    Slot.read stem entry = none ↔ ∀ n, ¬ Numbers stem entry.1 n := by
  rw [Slot.read, Option.map_eq_none_iff]
  simp only [Option.eq_none_iff_forall_ne_some, ne_eq, Slot.index?_eq_some_iff]

theorem Slot.read_eq_ok_iff {stem : String} {entry : String × String} {slot : Slot} :
    Slot.read stem entry = some (.ok slot) ↔ IsSlot stem entry slot := by
  simp only [Slot.read, Option.map_eq_some_iff, Slot.index?_eq_some_iff, map_eq_ok_iff,
    readId_eq_ok_iff]
  constructor
  · rintro ⟨n, hnumbers, id, hwrites, rfl⟩
    exact ⟨rfl, hnumbers, hwrites⟩
  · intro h
    obtain ⟨index, key, kind⟩ := slot
    obtain ⟨rfl, hnumbers, hwrites⟩ := h
    exact ⟨index, hnumbers, kind.val, hwrites, rfl⟩

theorem Slot.read_eq_error_iff {stem : String} {entry : String × String} {e : ConfigError} :
    Slot.read stem entry = some (.error e) ↔
      (∃ n, Numbers stem entry.1 n) ∧
        ∃ fault, IdFault entry.2 fault ∧ e = .invalid entry.1 entry.2 fault := by
  simp only [Slot.read, Option.map_eq_some_iff, Slot.index?_eq_some_iff, map_eq_error_iff,
    readId_eq_error_iff, exists_and_right]

/-- What `entry` is in the list with the stem `stem`, if it is well formed there. -/
def slot? (stem : String) (entry : String × String) : Option Slot :=
  (Slot.read stem entry).bind Except.toOption

/-- The slots of the list with the stem `stem`, in the order of the map. -/
def slotsOf (stem : String) (m : Attributes) : List Slot :=
  m.entries.filterMap (slot? stem)

theorem slot?_eq_some_iff {stem : String} {entry : String × String} {slot : Slot} :
    slot? stem entry = some slot ↔ IsSlot stem entry slot := by
  rw [slot?, Option.bind_eq_some_iff, ← Slot.read_eq_ok_iff]
  constructor
  · rintro ⟨_ | slot', hread, hslot⟩
    · cases hslot
    · obtain rfl := Option.some.inj hslot
      exact hread
  · intro hread
    exact ⟨.ok slot, hread, rfl⟩

theorem slot?_eq_none {stem : String} {entry : String × String}
    (h : ∀ n, ¬ Numbers stem entry.1 n) : slot? stem entry = none := by
  rw [slot?, Slot.read_eq_none_iff.mpr h]
  rfl

theorem mem_slotsOf_iff {stem : String} {slot : Slot} :
    slot ∈ slotsOf stem m ↔ ∃ entry ∈ m.entries, IsSlot stem entry slot := by
  simp only [slotsOf, List.mem_filterMap, slot?_eq_some_iff]

theorem nodup_map_key_slotsOf (stem : String) (m : Attributes) :
    ((slotsOf stem m).map Slot.key).Nodup := by
  rw [List.Nodup, List.pairwise_map, slotsOf, List.pairwise_filterMap]
  refine (List.pairwise_map.mp m.nodup_keys).imp fun hne slot hslot slot' hslot' => ?_
  rw [(slot?_eq_some_iff.mp hslot).key_eq, (slot?_eq_some_iff.mp hslot').key_eq]
  exact hne

theorem isNumbered_iff {key : String} :
    IsNumbered key ↔
      (∃ n, Numbers blacklistStem key n) ∨ ∃ n, Numbers killOrderStem key n :=
  exists_or

variable {slots : Slots} {entry : String × String} {e : ConfigError}

theorem Slots.add_of_malformed (h : Malformed entry e) : slots.add entry = .error e := by
  obtain ⟨hnumbered, hfault⟩ := h
  obtain hblacklist | ⟨n, hkillOrder⟩ := isNumbered_iff.mp hnumbered
  · rw [Slots.add, Slot.read_eq_error_iff.mpr ⟨hblacklist, _, hfault, rfl⟩]
    rfl
  · have hother : Slot.read blacklistStem entry = none :=
      Slot.read_eq_none_iff.mpr fun n' h' => h'.not_killOrder hkillOrder
    rw [Slots.add, hother, Slot.read_eq_error_iff.mpr ⟨⟨n, hkillOrder⟩, _, hfault, rfl⟩]
    rfl

theorem Slots.add_of_wellFormed (h : ∀ e, ¬ Malformed entry e) :
    slots.add entry = .ok
      { blacklist := slots.blacklist ++ (slot? blacklistStem entry).toList
        killOrder := slots.killOrder ++ (slot? killOrderStem entry).toList } := by
  have hread {stem : String} (hstem : ∀ n, Numbers stem entry.1 n → IsNumbered entry.1) :
      Slot.read stem entry = (slot? stem entry).map .ok := by
    cases hanswer : Slot.read stem entry with
    | none => simp [slot?, hanswer]
    | some answer =>
        cases answer with
        | ok slot => simp [slot?, hanswer, Except.toOption]
        | error e =>
            obtain ⟨⟨n, hn⟩, fault, hfault, -⟩ := Slot.read_eq_error_iff.mp hanswer
            exact absurd ⟨hstem n hn, hfault⟩ (h (.invalid entry.1 entry.2 fault))
  rw [Slots.add, hread fun n hn => ⟨n, .inl hn⟩, hread fun n hn => ⟨n, .inr hn⟩]
  cases hblacklist : slot? blacklistStem entry with
  | none => cases slot? killOrderStem entry <;> simp [Except.map]
  | some slot =>
      have hother : slot? killOrderStem entry = none :=
        slot?_eq_none fun n hn => (slot?_eq_some_iff.mp hblacklist).numbers.not_killOrder hn
      simp [Except.map, hother]

theorem foldlM_add_of_wellFormed {entries : List (String × String)}
    (h : ∀ entry ∈ entries, ∀ e, ¬ Malformed entry e) (slots : Slots) :
    entries.foldlM Slots.add slots = .ok
      { blacklist := slots.blacklist ++ entries.filterMap (slot? blacklistStem)
        killOrder := slots.killOrder ++ entries.filterMap (slot? killOrderStem) } := by
  induction entries generalizing slots with
  | nil =>
      simp only [List.filterMap_nil, List.append_nil]
      rfl
  | cons entry entries ih =>
      obtain ⟨hentry, hentries⟩ := List.forall_mem_cons.mp h
      have hslots (stem : String) : (entry :: entries).filterMap (slot? stem) =
          (slot? stem entry).toList ++ entries.filterMap (slot? stem) := by
        cases hslot : slot? stem entry <;> simp [hslot]
      rw [List.foldlM_cons, Slots.add_of_wellFormed hentry, hslots, hslots,
        ← List.append_assoc, ← List.append_assoc]
      exact ih hentries _

theorem readSlots_of_wellFormed (h : ∀ entry ∈ m.entries, ∀ e, ¬ Malformed entry e) :
    readSlots m =
      .ok { blacklist := slotsOf blacklistStem m, killOrder := slotsOf killOrderStem m } :=
  foldlM_add_of_wellFormed h {}

theorem readSlots_of_malformed {before after : List (String × String)}
    (hentries : m.entries = before ++ entry :: after)
    (hbefore : ∀ entry ∈ before, ∀ e, ¬ Malformed entry e) (h : Malformed entry e) :
    readSlots m = .error e := by
  rw [readSlots, hentries, List.foldlM_append, foldlM_add_of_wellFormed hbefore,
    bind_eq_error_iff]
  refine .inr ⟨_, rfl, ?_⟩
  rw [List.foldlM_cons, Slots.add_of_malformed h]
  rfl

theorem exists_first_malformed {entries : List (String × String)}
    (h : ¬ ∀ entry ∈ entries, ∀ e, ¬ Malformed entry e) :
    ∃ before entry after e, entries = before ++ entry :: after ∧ Malformed entry e ∧
      ∀ entry ∈ before, ∀ e, ¬ Malformed entry e := by
  induction entries with
  | nil => exact absurd (fun entry hentry => absurd hentry List.not_mem_nil) h
  | cons entry entries ih =>
      by_cases hentry : ∃ e, Malformed entry e
      · obtain ⟨e, he⟩ := hentry
        exact ⟨[], entry, entries, e, rfl, he, fun _ h => absurd h List.not_mem_nil⟩
      · have hentry' : ∀ e, ¬ Malformed entry e := fun e he => hentry ⟨e, he⟩
        obtain ⟨before, other, after, e, rfl, he, hbefore⟩ :=
          ih fun hentries => h (List.forall_mem_cons.mpr ⟨hentry', hentries⟩)
        exact ⟨entry :: before, other, after, e, rfl, he,
          List.forall_mem_cons.mpr ⟨hentry', hbefore⟩⟩

theorem readSlots_eq_ok_iff :
    readSlots m = .ok slots ↔ (∀ entry ∈ m.entries, ∀ e, ¬ Malformed entry e) ∧
      slots = { blacklist := slotsOf blacklistStem m, killOrder := slotsOf killOrderStem m } := by
  by_cases hall : ∀ entry ∈ m.entries, ∀ e, ¬ Malformed entry e
  · rw [readSlots_of_wellFormed hall, Except.ok.injEq]
    exact ⟨fun h => ⟨hall, h.symm⟩, fun h => h.2.symm⟩
  · obtain ⟨before, entry, after, e, hentries, he, hbefore⟩ := exists_first_malformed hall
    rw [readSlots_of_malformed hentries hbefore he]
    exact ⟨nofun, fun h => absurd h.1 hall⟩

/-- Of several malformed attributes the first is reported. -/
theorem readSlots_eq_error_iff :
    readSlots m = .error e ↔ ∃ before entry after, m.entries = before ++ entry :: after ∧
      Malformed entry e ∧ ∀ entry ∈ before, ∀ e, ¬ Malformed entry e := by
  constructor
  · intro h
    have hall : ¬ ∀ entry ∈ m.entries, ∀ e, ¬ Malformed entry e := by
      intro hall
      rw [readSlots_of_wellFormed hall] at h
      cases h
    obtain ⟨before, entry, after, e', hentries, he', hbefore⟩ := exists_first_malformed hall
    obtain rfl : e = e' :=
      Except.error.inj (h.symm.trans (readSlots_of_malformed hentries hbefore he'))
    exact ⟨before, entry, after, hentries, he', hbefore⟩
  · rintro ⟨before, entry, after, hentries, he, hbefore⟩
    exact readSlots_of_malformed hentries hbefore he

end Config

end Encounter
