import Encounter.Proofs.Config.Ranking
import Encounter.Proofs.Config.Reading
import Encounter.Proofs.World.Visibility

/-!
# What attributes describe

Attributes are accepted for the configuration that they describe and are refused if they describe
none.  What they describe is told attribute by attribute, without regard to the order in which the
map is gone through.  An attribute that says nothing of an encounter may be left out.
-/

namespace Encounter.Config

/-! ## Lists of attributes -/

/-- No two attributes of the list with the stem `stem` have one number. -/
def Apart (m : Attributes) (stem : String) : Prop :=
  ∀ entry ∈ m.entries, ∀ other ∈ m.entries, ∀ n,
    Numbers stem entry.1 n → Numbers stem other.1 n → entry = other

/-- `kinds` are the ids in the list with the stem `stem`, in increasing order of their numbers. -/
def Ranks (m : Attributes) (stem : String) (kinds : List Kind) : Prop :=
  ∃ ranking : List (ℕ × Kind), ranking.map Prod.snd = kinds ∧ ranking.Pairwise (·.1 < ·.1) ∧
    ∀ n kind, (n, kind) ∈ ranking ↔
      ∃ entry ∈ m.entries, Numbers stem entry.1 n ∧ WritesId entry.2 kind.val

variable {m m' : Attributes} {stem : String} {kinds kinds' : List Kind}

theorem Ranks.unique (h : Ranks m stem kinds) (h' : Ranks m stem kinds') : kinds = kinds' := by
  obtain ⟨ranking, rfl, hstrict, hmem⟩ := h
  obtain ⟨ranking', rfl, hstrict', hmem'⟩ := h'
  have hnodup : ranking.Nodup := hstrict.imp fun hlt heq => hlt.ne (congrArg Prod.fst heq)
  have hnodup' : ranking'.Nodup := hstrict'.imp fun hlt heq => hlt.ne (congrArg Prod.fst heq)
  have hperm : ranking.Perm ranking' := by
    rw [List.perm_ext_iff_of_nodup hnodup hnodup']
    intro ⟨n, kind⟩
    rw [hmem, hmem']
  rw [List.Perm.eq_of_pairwise (fun _ _ _ _ h h' => absurd h h'.not_gt) hstrict hstrict' hperm]

theorem ranks_of_ranking {ranking : List Slot} (hperm : ranking.Perm (slotsOf stem m))
    (hstrict : ranking.Pairwise (·.index < ·.index)) : Ranks m stem (ranking.map Slot.kind) := by
  refine ⟨ranking.map fun slot => (slot.index, slot.kind), by rw [List.map_map]; rfl,
    List.pairwise_map.mpr hstrict, fun n kind => ?_⟩
  simp only [List.mem_map, hperm.mem_iff, mem_slotsOf_iff, Prod.mk.injEq]
  constructor
  · rintro ⟨slot, ⟨entry, hentry, hslot⟩, rfl, rfl⟩
    exact ⟨entry, hentry, hslot.numbers, hslot.writesId⟩
  · rintro ⟨entry, hentry, hnumbers, hwrites⟩
    exact ⟨⟨n, entry.1, kind⟩, ⟨entry, hentry, rfl, hnumbers, hwrites⟩, rfl, rfl⟩

theorem writesId_or_idFault (value : String) :
    (∃ id, WritesId value id) ∨ ∃ fault, IdFault value fault := by
  obtain ⟨id, hwrites, -⟩ | ⟨fault, hfault, -⟩ := readId_cases "" value
  · exact .inl ⟨id, hwrites⟩
  · exact .inr ⟨fault, hfault⟩

theorem not_malformed_iff {entry : String × String} :
    (∀ e, ¬ Malformed entry e) ↔ (IsNumbered entry.1 → ∃ id, WritesId entry.2 id) := by
  constructor
  · intro h hnumbered
    rcases writesId_or_idFault entry.2 with hwrites | ⟨fault, hfault⟩
    · exact hwrites
    · exact absurd ⟨hnumbered, hfault⟩ (h _)
  · rintro h e ⟨hnumbered, hfault⟩
    obtain ⟨id, hwrites⟩ := h hnumbered
    exact hwrites.not_idFault hfault

/-- All attributes of the list with the stem `stem` have ids. -/
def HasIds (m : Attributes) (stem : String) : Prop :=
  ∀ entry ∈ m.entries, ∀ n, Numbers stem entry.1 n → ∃ id, WritesId entry.2 id

theorem hasIds_iff :
    HasIds m blacklistStem ∧ HasIds m killOrderStem ↔
      ∀ entry ∈ m.entries, IsNumbered entry.1 → ∃ id, WritesId entry.2 id := by
  constructor
  · rintro ⟨hblacklist, hkillOrder⟩ entry hentry ⟨n, hn | hn⟩
    · exact hblacklist entry hentry n hn
    · exact hkillOrder entry hentry n hn
  · intro h
    exact ⟨fun entry hentry n hn => h entry hentry ⟨n, .inl hn⟩,
      fun entry hentry n hn => h entry hentry ⟨n, .inr hn⟩⟩

/-- A list whose attributes all have ids is ranked if no two of them have one number. -/
theorem ranked_slotsOf_eq_ok_iff (hids : HasIds m stem) :
    Slot.ranked (slotsOf stem m) = .ok kinds ↔ Apart m stem ∧ Ranks m stem kinds := by
  have hkeys := nodup_map_key_slotsOf stem m
  rcases Slot.ranked_cases hkeys with ⟨ranking, hperm, hstrict, hranked⟩ | ⟨slot, hclash, hranked⟩
  · have hranks : Ranks m stem (ranking.map Slot.kind) := ranks_of_ranking hperm hstrict
    -- Attributes with one number are slots with one number, and a ranking has one such slot.
    have hapart : Apart m stem := by
      intro entry hentry other hother n hn hn'
      obtain ⟨id, hid⟩ := hids entry hentry n hn
      obtain ⟨id', hid'⟩ := hids other hother n hn'
      have hslot : ⟨n, entry.1, ⟨id⟩⟩ ∈ ranking :=
        hperm.mem_iff.mpr (mem_slotsOf_iff.mpr ⟨entry, hentry, rfl, hn, hid⟩)
      have hslot' : ⟨n, other.1, ⟨id'⟩⟩ ∈ ranking :=
        hperm.mem_iff.mpr (mem_slotsOf_iff.mpr ⟨other, hother, rfl, hn', hid'⟩)
      have hindices : (ranking.map Slot.index).Nodup :=
        List.pairwise_map.mpr (hstrict.imp fun h => h.ne)
      have hsame := List.inj_on_of_nodup_map hindices hslot hslot' rfl
      exact List.inj_on_of_nodup_map m.nodup_keys hentry hother (congrArg Slot.key hsame)
    rw [hranked, Except.ok.injEq]
    exact ⟨fun h => ⟨hapart, h ▸ hranks⟩, fun h => hranks.unique h.2⟩
  · rw [hranked]
    refine ⟨nofun, fun ⟨hapart, _⟩ => ?_⟩
    obtain ⟨first, hfirst, hindex, hkey, -⟩ := hclash.second
    obtain ⟨entry, hentry, hslot⟩ := mem_slotsOf_iff.mp hclash.mem
    obtain ⟨other, hother, hslot'⟩ := mem_slotsOf_iff.mp hfirst
    have hsame : other = entry :=
      hapart other hother entry hentry slot.index (hindex ▸ hslot'.numbers) hslot.numbers
    rw [hslot.key_eq, hslot'.key_eq, hsame] at hkey
    exact absurd hkey (lt_irrefl _)

/-! ## Configurations -/

/-- `m` describes `c`. -/
structure DescribedBy (m : Attributes) (c : Config) : Prop where
  ids : ∀ entry ∈ m.entries, IsNumbered entry.1 → ∃ id, WritesId entry.2 id
  apart : Apart m blacklistStem ∧ Apart m killOrderStem
  boss : ∃ name value, NamesBoss m name value ∧ WritesId value c.boss.val
  aura : (∃ value, (auraName, value) ∈ m.entries ∧ WritesId value c.aura.val) ∨
    (∀ value, (auraName, value) ∉ m.entries) ∧ c.aura = ⟨0⟩
  ignoreBoss : (∃ value, (ignoreName, value) ∈ m.entries ∧ Text.WritesBool value c.ignoreBoss) ∨
    (∀ value, (ignoreName, value) ∉ m.entries) ∧ c.ignoreBoss = false
  blacklist : Ranks m blacklistStem c.blacklist
  killOrder : Ranks m killOrderStem c.killOrder

theorem ofAttributes_eq_ok_iff_readers {c : Config} :
    ofAttributes m = .ok c ↔ (∀ entry ∈ m.entries, ∀ e, ¬ Malformed entry e) ∧
      readBoss m = .ok c.boss ∧ readAura m = .ok c.aura ∧ readIgnoreBoss m = .ok c.ignoreBoss ∧
      Slot.ranked (slotsOf blacklistStem m) = .ok c.blacklist ∧
      Slot.ranked (slotsOf killOrderStem m) = .ok c.killOrder := by
  simp only [ofAttributes, bind_eq_ok_iff, readSlots_eq_ok_iff]
  constructor
  · rintro ⟨slots, ⟨hwell, rfl⟩, boss, hboss, aura, haura, ignoreBoss, hignore, blacklist,
      hblacklist, killOrder, hkillOrder, hc⟩
    obtain rfl := Except.ok.inj hc
    exact ⟨hwell, hboss, haura, hignore, hblacklist, hkillOrder⟩
  · rintro ⟨hwell, hboss, haura, hignore, hblacklist, hkillOrder⟩
    exact ⟨_, ⟨hwell, rfl⟩, _, hboss, _, haura, _, hignore, _, hblacklist, _, hkillOrder, rfl⟩

theorem ofAttributes_eq_ok_iff {c : Config} : ofAttributes m = .ok c ↔ DescribedBy m c := by
  rw [ofAttributes_eq_ok_iff_readers, readBoss_eq_ok_iff, readAura_eq_ok_iff,
    readIgnoreBoss_eq_ok_iff]
  simp only [not_malformed_iff]
  constructor
  · rintro ⟨hids, hboss, haura, hignore, hblacklist, hkillOrder⟩
    obtain ⟨hblacklistIds, hkillOrderIds⟩ := hasIds_iff.mpr hids
    rw [ranked_slotsOf_eq_ok_iff hblacklistIds] at hblacklist
    rw [ranked_slotsOf_eq_ok_iff hkillOrderIds] at hkillOrder
    exact ⟨hids, ⟨hblacklist.1, hkillOrder.1⟩, hboss, haura, hignore, hblacklist.2, hkillOrder.2⟩
  · intro h
    obtain ⟨hblacklistIds, hkillOrderIds⟩ := hasIds_iff.mpr h.ids
    rw [ranked_slotsOf_eq_ok_iff hblacklistIds, ranked_slotsOf_eq_ok_iff hkillOrderIds]
    exact ⟨h.ids, h.boss, h.aura, h.ignoreBoss, ⟨h.apart.1, h.blacklist⟩,
      ⟨h.apart.2, h.killOrder⟩⟩

theorem DescribedBy.unique {c c' : Config} (h : DescribedBy m c) (h' : DescribedBy m c') :
    c = c' := by
  rw [← ofAttributes_eq_ok_iff] at h h'
  exact Except.ok.inj (h.symm.trans h')

theorem Ranks.ne_zero (h : Ranks m stem kinds) {kind : Kind} (hkind : kind ∈ kinds) :
    kind.val ≠ 0 := by
  obtain ⟨ranking, rfl, -, hmem⟩ := h
  obtain ⟨⟨n, kind⟩, hranked, rfl⟩ := List.mem_map.mp hkind
  obtain ⟨entry, -, -, hwrites⟩ := (hmem n kind).mp hranked
  exact hwrites.ne_zero

theorem zeroField?_eq_none_iff {c : Config} :
    c.zeroField? = none ↔ c.boss.val ≠ 0 ∧ (∀ kind ∈ c.blacklist, kind.val ≠ 0) ∧
      ∀ kind ∈ c.killOrder, kind.val ≠ 0 := by
  have hall (kinds : List Kind) :
      (∀ kind ∈ kinds, kind.val ≠ 0) ↔ kinds.any (·.val == 0) = false := by
    simp
  rw [hall, hall]
  grind [zeroField?]

theorem validate_eq_ok_iff {c : Config} : c.validate = .ok c ↔ c.zeroField? = none := by
  unfold validate
  cases c.zeroField? <;> simp

theorem DescribedBy.validate_eq {c : Config} (h : DescribedBy m c) : c.validate = .ok c := by
  obtain ⟨name, value, -, hwrites⟩ := h.boss
  rw [validate_eq_ok_iff, zeroField?_eq_none_iff]
  exact ⟨hwrites.ne_zero, fun _ hkind => h.blacklist.ne_zero hkind,
    fun _ hkind => h.killOrder.ne_zero hkind⟩

/-! ## Attributes without effect -/

/-- The attribute `key` of `m` says something of an encounter. -/
inductive Heeds (m : Attributes) : String → Prop
  | numbered {key : String} (h : IsNumbered key) : Heeds m key
  | boss {key value : String} (h : NamesBoss m key value) : Heeds m key
  | aura : Heeds m auraName
  | ignoreBoss : Heeds m ignoreName

theorem Slots.add_of_not_isNumbered {slots : Slots} {entry : String × String}
    (h : ¬ IsNumbered entry.1) : slots.add entry = .ok slots := by
  have hblacklist : Slot.read blacklistStem entry = none :=
    Slot.read_eq_none_iff.mpr fun n hn => h ⟨n, .inl hn⟩
  have hkillOrder : Slot.read killOrderStem entry = none :=
    Slot.read_eq_none_iff.mpr fun n hn => h ⟨n, .inr hn⟩
  rw [Slots.add, hblacklist, hkillOrder]

theorem foldlM_add_of_thinned {spare : String × String → Prop}
    {entries entries' : List (String × String)} (h : Thinned spare entries entries')
    (hspare : ∀ entry, spare entry → ¬ IsNumbered entry.1) (slots : Slots) :
    entries'.foldlM Slots.add slots = entries.foldlM Slots.add slots := by
  induction h generalizing slots with
  | nil => rfl
  | keep entry _ ih =>
      rw [List.foldlM_cons, List.foldlM_cons]
      exact bind_congr fun slots => ih slots
  | drop hentry _ ih =>
      rw [List.foldlM_cons, Slots.add_of_not_isNumbered (hspare _ hentry)]
      exact ih slots

/-- `m'` is `m` without some of the attributes that say nothing. -/
def Pruned (m m' : Attributes) : Prop :=
  Thinned (fun entry => ¬ Heeds m entry.1) m.entries m'.entries

theorem Pruned.readSlots_eq (h : Pruned m m') : readSlots m' = readSlots m :=
  foldlM_add_of_thinned h (fun _ hentry hnumbered => hentry (.numbered hnumbered)) {}

theorem Pruned.get?_eq (h : Pruned m m') {key : String} (hkey : Heeds m key) :
    m'.get? key = m.get? key := by
  have hfind : m'.entries.find? (·.1 == key) = m.entries.find? (·.1 == key) := by
    refine Thinned.find?_eq h fun entry hentry => ?_
    rw [beq_eq_false_iff_ne]
    rintro rfl
    exact hentry hkey
  rw [Attributes.get?, Attributes.get?, hfind]

theorem Pruned.namesBoss (h : Pruned m m') {name value : String} (hnames : NamesBoss m name value) :
    NamesBoss m' name value := by
  have hget := h.get?_eq (.boss hnames)
  obtain ⟨before, after, hsplit, hentry, hbefore⟩ := hnames
  rw [Attributes.get?_eq_some_iff.mpr hentry, Attributes.get?_eq_some_iff] at hget
  exact ⟨before, after, hsplit, hget,
    fun other hother text htext => hbefore other hother text (Thinned.mem_of_mem h htext)⟩

theorem Pruned.readBoss_eq (h : Pruned m m') : readBoss m' = readBoss m := by
  obtain ⟨name, value, hnames⟩ | hnone := namesBoss_or_unnamed m
  · rw [hnames.readBoss_eq, (h.namesBoss hnames).readBoss_eq]
  · rw [readBoss_of_unnamed hnone, readBoss_of_unnamed fun name hname value hentry =>
      hnone name hname value (Thinned.mem_of_mem h hentry)]

theorem Pruned.ofAttributes_eq (h : Pruned m m') : ofAttributes m' = ofAttributes m := by
  have haura : readAura m' = readAura m := by
    rw [readAura, readAura, h.get?_eq .aura]
  have hignore : readIgnoreBoss m' = readIgnoreBoss m := by
    rw [readIgnoreBoss, readIgnoreBoss, h.get?_eq .ignoreBoss]
  rw [ofAttributes, ofAttributes, h.readSlots_eq, h.readBoss_eq, haura, hignore]

/-- Attributes are accepted for exactly what they describe, which is a valid configuration, and an
attribute that says nothing has no effect. -/
theorem ofAttributes_describes (m : Attributes) :
    (∀ c, ofAttributes m = .ok c ↔ DescribedBy m c) ∧
      (∀ c, ofAttributes m = .ok c → c.validate = .ok c) ∧
      ∀ m', Pruned m m' → ofAttributes m' = ofAttributes m := by
  refine ⟨fun c => ofAttributes_eq_ok_iff, fun c hc => ?_, fun m' h => h.ofAttributes_eq⟩
  exact (ofAttributes_eq_ok_iff.mp hc).validate_eq

theorem ofAttributes_describes_padded :
    let m : Attributes :=
      { entries := [("KillOrder10", "210"), ("NpcId", " +42 "), ("KillOrder02", "201"),
          ("NpcID", "0"), ("IgnoreBoss", "true\t")]
        nodup_keys := by decide }
    let config : Config := { boss := ⟨42⟩, ignoreBoss := true, killOrder := [⟨201⟩, ⟨210⟩] }
    ofAttributes m = .ok config ∧ DescribedBy m config ∧ config.validate = .ok config := by
  intro m config
  have hslots : readSlots m = .ok
      { killOrder := [⟨10, "KillOrder10", ⟨210⟩⟩, ⟨2, "KillOrder02", ⟨201⟩⟩] } := by
    decide +kernel
  have hranked : Slot.ranked [⟨10, "KillOrder10", ⟨210⟩⟩, ⟨2, "KillOrder02", ⟨201⟩⟩] =
      .ok [⟨201⟩, ⟨210⟩] :=
    Slot.ranked_eq_ok (by decide) (List.Perm.swap _ _ _) (by decide)
  have hattributes : ofAttributes m = .ok config := by
    simp only [ofAttributes, hslots, bind, Except.bind, hranked]
    decide +kernel
  obtain ⟨hdescribes, hvalid, -⟩ := ofAttributes_describes m
  exact ⟨hattributes, (hdescribes config).mp hattributes, hvalid config hattributes⟩

end Encounter.Config
