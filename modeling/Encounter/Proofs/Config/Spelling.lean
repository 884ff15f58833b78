import Encounter.Proofs.Config.Acceptance
import Mathlib.Tactic.IntervalCases

/-!
# Configurations spelled out

A configuration can be spelled out as attributes, each parameter under its name and each list with
its numbers from one.  Read back, the attributes describe that configuration and no other, if they
describe any.  They fall short of the rule for configurations in one respect: the rule leaves the
aura alone, whose zero stands for none, but an aura that is spelled out must be positive.
-/

namespace Encounter.Config

/-! ## Numbers in decimal -/

theorem isBlank_of_isDigit {c : Char} (h : c.isDigit = true) : Text.isBlank c = false := by
  obtain ⟨d, hd, rfl⟩ := Text.exists_digitChar_of_isDigit h
  interval_cases d <;> decide

theorem writesNumber_repr (n : ℕ) : Text.WritesNumber n.repr n := by
  have hnumeral := Text.numeral_toDigits n
  have hblank : ∀ c ∈ Nat.toDigits 10 n, Text.isBlank c = false :=
    fun c hc => isBlank_of_isDigit (hnumeral.isDigit c hc)
  refine ⟨Nat.toDigits 10 n, Nat.toDigits 10 n, ?_, .inl rfl, hnumeral⟩
  rw [Nat.toList_repr]
  exact
    { between := ⟨[], [], by simp, by simp, by simp⟩
      head := fun c hc => hblank c (List.mem_of_mem_head? hc)
      last := fun c hc => hblank c (List.mem_of_mem_getLast? hc) }

theorem writesId_repr_iff {id id' : UInt32} :
    WritesId id.toNat.repr id' ↔ id' = id ∧ id ≠ 0 := by
  constructor
  · intro h
    obtain rfl : id' = id := UInt32.toNat_inj.mp (h.number.unique (writesNumber_repr id.toNat))
    exact ⟨rfl, h.ne_zero⟩
  · rintro ⟨rfl, hne⟩
    exact ⟨writesNumber_repr _, hne⟩

theorem writesBool_truthWord (b : Bool) : Text.WritesBool (Text.truthWord b) b := by
  rw [Text.writesBool_iff]
  cases b <;> decide

theorem numbers_repr_iff {stem : String} {n n' : ℕ} (hn : n < UInt32.size) :
    Numbers stem (stem ++ n.repr) n' ↔ n' = n := by
  have hnumbers : Numbers stem (stem ++ n.repr) n :=
    ⟨Nat.toDigits 10 n, by rw [String.toList_append, Nat.toList_repr], Text.numeral_toDigits n, hn⟩
  constructor
  · intro h
    exact h.unique hnumbers
  · rintro rfl
    exact hnumbers

/-! ## Spelling -/

/-- The list with the stem `stem` spelled out. -/
def spelledList (stem : String) (kinds : List Kind) : List (String × String) :=
  kinds.mapIdx fun i kind => (stem ++ (i + 1).repr, kind.text)

/-- The parameters of `c` that are no lists, spelled out. -/
def spelledSingles (c : Config) : List (String × String) :=
  [("BossId", c.boss.text), (auraName, c.aura.text), (ignoreName, Text.truthWord c.ignoreBoss)]

variable {stem : String} {kinds : List Kind} {entry : String × String} {c c' : Config}

theorem mem_spelledList_iff :
    entry ∈ spelledList stem kinds ↔
      ∃ i kind, kinds[i]? = some kind ∧ entry = (stem ++ (i + 1).repr, kind.text) := by
  simp only [spelledList, List.mem_mapIdx, List.getElem?_eq_some_iff]
  constructor
  · rintro ⟨i, hi, rfl⟩
    exact ⟨i, kinds[i], ⟨hi, rfl⟩, rfl⟩
  · rintro ⟨i, kind, ⟨hi, rfl⟩, rfl⟩
    exact ⟨i, hi, rfl⟩

theorem prefix_of_mem_spelledList (h : entry ∈ spelledList stem kinds) :
    stem.toList <+: entry.1.toList := by
  obtain ⟨i, kind, -, rfl⟩ := mem_spelledList_iff.mp h
  rw [String.toList_append]
  exact List.prefix_append _ _

theorem append_repr_injective (stem : String) :
    Function.Injective fun n : ℕ => stem ++ n.repr := by
  intro n n' h
  exact Text.repr_injective ((String.append_right_inj stem).mp h)

theorem nodup_map_fst_spelledList (stem : String) (kinds : List Kind) :
    ((spelledList stem kinds).map Prod.fst).Nodup := by
  have hkeys : (spelledList stem kinds).map Prod.fst =
      (List.range kinds.length).map fun i => stem ++ (i + 1).repr := by
    apply List.ext_getElem <;> simp [spelledList]
  rw [hkeys]
  refine List.Nodup.map (fun i i' h => ?_) List.nodup_range
  exact Nat.succ_injective (append_repr_injective stem h)

theorem not_prefix_killOrder {key : String} (h : blacklistStem.toList <+: key.toList) :
    ¬ killOrderStem.toList <+: key.toList := by
  intro h'
  exact absurd (List.prefix_of_prefix_length_le h' h (by decide)) (by decide)

theorem not_prefix_of_mem_spelledSingles (h : entry ∈ spelledSingles c) :
    ¬ blacklistStem.toList <+: entry.1.toList ∧ ¬ killOrderStem.toList <+: entry.1.toList := by
  have hnames : ∀ key ∈ ["BossId", auraName, ignoreName],
      ¬ blacklistStem.toList <+: key.toList ∧ ¬ killOrderStem.toList <+: key.toList := by decide
  exact hnames entry.1 (List.mem_map_of_mem h)

/-- The attributes that spell out `c`. -/
def spelled (c : Config) : Attributes where
  entries := spelledSingles c ++
    (spelledList blacklistStem c.blacklist ++ spelledList killOrderStem c.killOrder)
  nodup_keys := by
    have hnames : ["BossId", auraName, ignoreName].Nodup := by decide
    simp only [List.map_append, List.nodup_append, List.forall_mem_map]
    refine ⟨hnames, ⟨nodup_map_fst_spelledList _ _, nodup_map_fst_spelledList _ _, ?_⟩, ?_⟩
    · intro entry hentry other hother hsame
      refine not_prefix_killOrder (prefix_of_mem_spelledList hentry) ?_
      rw [hsame]
      exact prefix_of_mem_spelledList hother
    · intro entry hentry key hkey hsame
      obtain ⟨hblacklist, hkillOrder⟩ := not_prefix_of_mem_spelledSingles hentry
      rw [hsame] at hblacklist hkillOrder
      rcases List.mem_append.mp hkey with hkey | hkey
      · obtain ⟨other, hother, rfl⟩ := List.mem_map.mp hkey
        exact hblacklist (prefix_of_mem_spelledList hother)
      · obtain ⟨other, hother, rfl⟩ := List.mem_map.mp hkey
        exact hkillOrder (prefix_of_mem_spelledList hother)

theorem mem_spelled_iff :
    entry ∈ (spelled c).entries ↔ entry ∈ spelledSingles c ∨
      entry ∈ spelledList blacklistStem c.blacklist ∨
      entry ∈ spelledList killOrderStem c.killOrder := by
  rw [spelled, List.mem_append, List.mem_append]

/-! ## Lists read back -/

/-- The attributes in the list with the stem `stem` are those that spell out `kinds`. -/
def Spells (m : Attributes) (stem : String) (kinds : List Kind) : Prop :=
  ∀ entry n, entry ∈ m.entries ∧ Numbers stem entry.1 n ↔
    ∃ i kind, kinds[i]? = some kind ∧ entry = (stem ++ (i + 1).repr, kind.text) ∧ n = i + 1

variable {m : Attributes}

theorem Spells.apart (h : Spells m stem kinds) : Apart m stem := by
  intro entry hentry other hother n hn hn'
  obtain ⟨i, kind, hkind, rfl, rfl⟩ := (h entry n).mp ⟨hentry, hn⟩
  obtain ⟨i', kind', hkind', rfl, hi⟩ := (h other (i + 1)).mp ⟨hother, hn'⟩
  obtain rfl : i = i' := Nat.succ_injective hi
  obtain rfl := Option.some.inj (hkind.symm.trans hkind')
  rfl

theorem Spells.hasIds_iff (h : Spells m stem kinds) :
    HasIds m stem ↔ ∀ kind ∈ kinds, kind.val ≠ 0 := by
  constructor
  · intro hids kind hkind
    obtain ⟨i, hi⟩ := List.mem_iff_getElem?.mp hkind
    obtain ⟨hentry, hn⟩ := (h (stem ++ (i + 1).repr, kind.text) (i + 1)).mpr ⟨i, kind, hi, rfl, rfl⟩
    obtain ⟨id, hid⟩ := hids _ hentry _ hn
    exact (writesId_repr_iff.mp hid).2
  · intro hne entry hentry n hn
    obtain ⟨i, kind, hi, rfl, rfl⟩ := (h entry n).mp ⟨hentry, hn⟩
    exact ⟨kind.val, writesId_repr_iff.mpr ⟨rfl, hne kind (List.mem_of_getElem? hi)⟩⟩

theorem Spells.ranks (h : Spells m stem kinds) (hne : ∀ kind ∈ kinds, kind.val ≠ 0) :
    Ranks m stem kinds := by
  refine ⟨kinds.mapIdx fun i kind => (i + 1, kind), ?_, ?_, fun n kind => ?_⟩
  · apply List.ext_getElem <;> simp
  · rw [List.pairwise_iff_getElem]
    intro i j hi hj hij
    simpa using hij
  · have hranked : (n, kind) ∈ kinds.mapIdx (fun i kind => (i + 1, kind)) ↔
        ∃ i, kinds[i]? = some kind ∧ n = i + 1 := by
      simp only [List.mem_mapIdx, Prod.mk.injEq, List.getElem?_eq_some_iff]
      exact exists_congr fun i => ⟨fun ⟨hi, hn, hkind⟩ => ⟨⟨hi, hkind⟩, hn.symm⟩,
        fun ⟨⟨hi, hkind⟩, hn⟩ => ⟨hi, hn.symm, hkind⟩⟩
    rw [hranked]
    constructor
    · rintro ⟨i, hi, rfl⟩
      obtain ⟨hentry, hn⟩ :=
        (h (stem ++ (i + 1).repr, kind.text) (i + 1)).mpr ⟨i, kind, hi, rfl, rfl⟩
      exact ⟨_, hentry, hn, writesId_repr_iff.mpr ⟨rfl, hne kind (List.mem_of_getElem? hi)⟩⟩
    · rintro ⟨entry, hentry, hn, hid⟩
      obtain ⟨i, kind', hi, rfl, rfl⟩ := (h entry n).mp ⟨hentry, hn⟩
      have hval : kind.val = kind'.val := (writesId_repr_iff.mp hid).1
      obtain ⟨id⟩ := kind
      obtain ⟨id'⟩ := kind'
      obtain rfl : id = id' := hval
      exact ⟨i, hi, rfl⟩

theorem Numbers.prefix_toList {key : String} {n : ℕ} (h : Numbers stem key n) :
    stem.toList <+: key.toList := by
  obtain ⟨digits, hkey, -⟩ := h
  rw [hkey]
  exact List.prefix_append _ _

theorem spells_of_mem_iff (hlength : kinds.length < UInt32.size)
    (hmem : ∀ entry, stem.toList <+: entry.1.toList →
      (entry ∈ m.entries ↔ entry ∈ spelledList stem kinds)) : Spells m stem kinds := by
  intro entry n
  constructor
  · rintro ⟨hentry, hn⟩
    obtain ⟨i, kind, hi, rfl⟩ :=
      mem_spelledList_iff.mp ((hmem entry hn.prefix_toList).mp hentry)
    have hlt : i < kinds.length := (List.getElem?_eq_some_iff.mp hi).1
    exact ⟨i, kind, hi, rfl, (numbers_repr_iff (by omega)).mp hn⟩
  · rintro ⟨i, kind, hi, rfl, rfl⟩
    have hlt : i < kinds.length := (List.getElem?_eq_some_iff.mp hi).1
    have hspelled : (stem ++ (i + 1).repr, kind.text) ∈ spelledList stem kinds :=
      mem_spelledList_iff.mpr ⟨i, kind, hi, rfl⟩
    exact ⟨(hmem _ (prefix_of_mem_spelledList hspelled)).mpr hspelled,
      (numbers_repr_iff (by omega)).mpr rfl⟩

/-! ## Configurations read back -/

theorem spells_blacklist (hspelled : m.entries.Perm (spelled c).entries)
    (hlength : c.blacklist.length < UInt32.size) : Spells m blacklistStem c.blacklist := by
  refine spells_of_mem_iff hlength fun entry hprefix => ?_
  rw [hspelled.mem_iff, mem_spelled_iff]
  constructor
  · rintro (hentry | hentry | hentry)
    · exact absurd hprefix (not_prefix_of_mem_spelledSingles hentry).1
    · exact hentry
    · exact absurd (prefix_of_mem_spelledList hentry) (not_prefix_killOrder hprefix)
  · intro hentry
    exact .inr (.inl hentry)

theorem spells_killOrder (hspelled : m.entries.Perm (spelled c).entries)
    (hlength : c.killOrder.length < UInt32.size) : Spells m killOrderStem c.killOrder := by
  refine spells_of_mem_iff hlength fun entry hprefix => ?_
  rw [hspelled.mem_iff, mem_spelled_iff]
  constructor
  · rintro (hentry | hentry | hentry)
    · exact absurd hprefix (not_prefix_of_mem_spelledSingles hentry).2
    · exact absurd hprefix (not_prefix_killOrder (prefix_of_mem_spelledList hentry))
    · exact hentry
  · intro hentry
    exact .inr (.inr hentry)

theorem mem_of_mem_spelledSingles (hspelled : m.entries.Perm (spelled c).entries)
    (h : entry ∈ spelledSingles c) : entry ∈ m.entries :=
  hspelled.mem_iff.mpr (mem_spelled_iff.mpr (.inl h))

theorem namesBoss_of_spelled (hspelled : m.entries.Perm (spelled c).entries) :
    NamesBoss m "BossId" c.boss.text :=
  ⟨[], ["NpcId", "NpcID"], rfl,
    mem_of_mem_spelledSingles hspelled (by simp [spelledSingles]), by simp⟩

theorem aura_mem_of_spelled (hspelled : m.entries.Perm (spelled c).entries) :
    (auraName, c.aura.text) ∈ m.entries :=
  mem_of_mem_spelledSingles hspelled (by simp [spelledSingles])

theorem ignoreBoss_mem_of_spelled (hspelled : m.entries.Perm (spelled c).entries) :
    (ignoreName, Text.truthWord c.ignoreBoss) ∈ m.entries :=
  mem_of_mem_spelledSingles hspelled (by simp [spelledSingles])

section Spelled

variable (hspelled : m.entries.Perm (spelled c).entries)
  (hblacklist : c.blacklist.length < UInt32.size) (hkillOrder : c.killOrder.length < UInt32.size)
include hspelled hblacklist hkillOrder

theorem describedBy_of_spelled (hvalid : c.zeroField? = none) (haura : c.aura.val ≠ 0) :
    DescribedBy m c := by
  obtain ⟨hboss, hbl, hko⟩ := zeroField?_eq_none_iff.mp hvalid
  have hblacklist := spells_blacklist hspelled hblacklist
  have hkillOrder := spells_killOrder hspelled hkillOrder
  exact
    { ids := hasIds_iff.mp ⟨hblacklist.hasIds_iff.mpr hbl, hkillOrder.hasIds_iff.mpr hko⟩
      apart := ⟨hblacklist.apart, hkillOrder.apart⟩
      boss := ⟨_, _, namesBoss_of_spelled hspelled, writesId_repr_iff.mpr ⟨rfl, hboss⟩⟩
      aura := .inl ⟨_, aura_mem_of_spelled hspelled, writesId_repr_iff.mpr ⟨rfl, haura⟩⟩
      ignoreBoss := .inl ⟨_, ignoreBoss_mem_of_spelled hspelled, writesBool_truthWord _⟩
      blacklist := hblacklist.ranks hbl
      killOrder := hkillOrder.ranks hko }

/-- Attributes that spell out `c` describe it if its ids are positive, that of the aura included,
and describe nothing if they are not. -/
theorem describedBy_iff_of_spelled :
    DescribedBy m c' ↔ c' = c ∧ c.zeroField? = none ∧ c.aura.val ≠ 0 := by
  constructor
  · intro h
    have hboss : c.boss.val ≠ 0 := by
      obtain ⟨name, value, hnames, hid⟩ := h.boss
      obtain ⟨rfl, rfl⟩ := hnames.unique (namesBoss_of_spelled hspelled)
      exact (writesId_repr_iff.mp hid).2
    have haura : c.aura.val ≠ 0 := by
      obtain ⟨value, hentry, hid⟩ | ⟨hnone, -⟩ := h.aura
      · obtain rfl := m.value_unique (aura_mem_of_spelled hspelled) hentry
        exact (writesId_repr_iff.mp hid).2
      · exact absurd (aura_mem_of_spelled hspelled) (hnone _)
    obtain ⟨hblacklistIds, hkillOrderIds⟩ := hasIds_iff.mpr h.ids
    have hvalid : c.zeroField? = none := zeroField?_eq_none_iff.mpr
      ⟨hboss, (spells_blacklist hspelled hblacklist).hasIds_iff.mp hblacklistIds,
        (spells_killOrder hspelled hkillOrder).hasIds_iff.mp hkillOrderIds⟩
    exact ⟨h.unique (describedBy_of_spelled hspelled hblacklist hkillOrder hvalid haura),
      hvalid, haura⟩
  · rintro ⟨rfl, hvalid, haura⟩
    exact describedBy_of_spelled hspelled hblacklist hkillOrder hvalid haura

theorem ofAttributes_of_spelled_zero_aura (hvalid : c.zeroField? = none) (haura : c.aura.val = 0) :
    ofAttributes m = .error (.invalid "AuraId" "0" .notPositive) := by
  obtain ⟨hboss, hbl, hko⟩ := zeroField?_eq_none_iff.mp hvalid
  -- Nothing that is looked at before the aura is refused.
  have hwell : ∀ entry ∈ m.entries, ∀ e, ¬ Malformed entry e := by
    simp only [not_malformed_iff]
    exact hasIds_iff.mp ⟨(spells_blacklist hspelled hblacklist).hasIds_iff.mpr hbl,
      (spells_killOrder hspelled hkillOrder).hasIds_iff.mpr hko⟩
  have hread : readBoss m = .ok c.boss :=
    readBoss_eq_ok_iff.mpr ⟨_, _, namesBoss_of_spelled hspelled, writesId_repr_iff.mpr ⟨rfl, hboss⟩⟩
  have hentry : (auraName, "0") ∈ m.entries := by
    have hentry := aura_mem_of_spelled hspelled
    rwa [Aura.text, haura] at hentry
  have hrefused : readAura m = .error (.invalid "AuraId" "0" .notPositive) :=
    readAura_eq_error_iff.mpr ⟨_, _, hentry, .notPositive (writesNumber_repr 0), rfl⟩
  rw [ofAttributes, readSlots_of_wellFormed hwell, hread, hrefused]
  rfl

end Spelled

/-- Attributes that spell out a configuration are accepted, for that configuration, if it is valid
and has an aura.  A valid configuration without an aura is refused once it is spelled out. -/
theorem spelled_accepted_iff (hspelled : m.entries.Perm (spelled c).entries)
    (hblacklist : c.blacklist.length < UInt32.size)
    (hkillOrder : c.killOrder.length < UInt32.size) :
    (∀ c', ofAttributes m = .ok c' ↔ c' = c ∧ c.validate = .ok c ∧ c.aura.val ≠ 0) ∧
      (c.validate = .ok c → c.aura.val = 0 →
        ofAttributes m = .error (.invalid "AuraId" "0" .notPositive)) := by
  rw [validate_eq_ok_iff]
  refine ⟨fun c' => ?_, ofAttributes_of_spelled_zero_aura hspelled hblacklist hkillOrder⟩
  rw [ofAttributes_eq_ok_iff]
  exact describedBy_iff_of_spelled hspelled hblacklist hkillOrder

theorem spelled_accepted_iff_two_ranks :
    let c : Config := { boss := ⟨5⟩, aura := ⟨7⟩, blacklist := [⟨300⟩], killOrder := [⟨8⟩, ⟨8⟩] }
    let bare : Config := { c with aura := ⟨0⟩ }
    ofAttributes (spelled c) = .ok c ∧ bare.validate = .ok bare ∧
      ofAttributes (spelled bare) = .error (.invalid "AuraId" "0" .notPositive) := by
  intro c bare
  have hblacklist : c.blacklist.length < UInt32.size := by decide
  have hkillOrder : c.killOrder.length < UInt32.size := by decide
  obtain ⟨hread, -⟩ :=
    spelled_accepted_iff (List.Perm.refl (spelled c).entries) hblacklist hkillOrder
  obtain ⟨-, hrefused⟩ :=
    spelled_accepted_iff (List.Perm.refl (spelled bare).entries) hblacklist hkillOrder
  exact ⟨(hread c).mpr ⟨rfl, rfl, by decide⟩, rfl, hrefused rfl rfl⟩

/-- The two ways to a configuration do not agree on every one: without an aura it is valid, but is
refused once it is spelled out. -/
theorem zero_aura_valid_but_refused :
    ¬ ∀ (c : Config) (m : Attributes), m.entries.Perm (spelled c).entries →
      c.blacklist.length < UInt32.size → c.killOrder.length < UInt32.size →
        ((∃ c', ofAttributes m = .ok c') ↔ c.validate = .ok c) := by
  intro h
  have hperm := List.Perm.refl (spelled { boss := ⟨5⟩ }).entries
  obtain ⟨c', hread⟩ := (h { boss := ⟨5⟩ } _ hperm (by decide) (by decide)).mpr rfl
  rw [ofAttributes_of_spelled_zero_aura hperm (by decide) (by decide) rfl rfl] at hread
  cases hread

end Encounter.Config
