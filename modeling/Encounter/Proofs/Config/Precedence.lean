import Encounter.Proofs.Config.Acceptance
import Mathlib.Tactic.IntervalCases

/-!
# What is reported of attributes that are refused

Everything that can be wrong with attributes has its place in one order, and what stands first is
reported.  Each place holds one report at most, except that several numbered attributes may be
malformed.  So the order in which the map is gone through decides at most which of these is named.
-/

namespace Encounter.Config

variable {m m' : Attributes} {stem : String}

/-! ## Numbers given twice -/

/-- Of the attributes in the list with the stem `stem` that have the least number given twice, which
is `n`, the second by its bytes is `key`. -/
structure Repeats (m : Attributes) (stem key : String) (n : ℕ) : Prop where
  numbers : Numbers stem key n
  second : ∃ first ∈ m.entries.map Prod.fst, Numbers stem first n ∧
    Text.bytes first < Text.bytes key ∧ ∀ other ∈ m.entries.map Prod.fst, Numbers stem other n →
      Text.bytes other < Text.bytes key → other = first
  least : ∀ key ∈ m.entries.map Prod.fst, ∀ other ∈ m.entries.map Prod.fst, ∀ n',
    Numbers stem key n' → Numbers stem other n' → key ≠ other → n ≤ n'

theorem Numbers.bytes_lt_iff {key other : String} {n n' : ℕ}
    (hstem : ∀ c ∈ stem.toList, c.toNat < 128) (h : Numbers stem key n)
    (h' : Numbers stem other n') : Text.bytes key < Text.bytes other ↔ key < other := by
  have hascii {key : String} {n : ℕ} (h : Numbers stem key n) :
      ∀ c ∈ key.toList, c.toNat < 128 := by
    obtain ⟨digits, hkey, hdigits, -⟩ := h
    intro c hc
    rw [hkey, List.mem_append] at hc
    rcases hc with hc | hc
    · exact hstem c hc
    · have hdigit := hdigits.isDigit c hc
      simp only [Char.isDigit, Bool.and_eq_true, decide_eq_true_eq] at hdigit
      exact Nat.lt_of_le_of_lt (UInt32.le_iff_toNat_le.mp hdigit.2) (by decide)
  exact Text.bytes_lt_iff (hascii h) (hascii h')

theorem exists_slot (hids : HasIds m stem) {key : String} {n : ℕ}
    (hkey : key ∈ m.entries.map Prod.fst) (hn : Numbers stem key n) :
    ∃ slot ∈ slotsOf stem m, slot.key = key ∧ slot.index = n := by
  obtain ⟨entry, hentry, rfl⟩ := List.mem_map.mp hkey
  obtain ⟨id, hid⟩ := hids entry hentry n hn
  exact ⟨⟨n, entry.1, ⟨id⟩⟩, mem_slotsOf_iff.mpr ⟨entry, hentry, rfl, hn, hid⟩, rfl, rfl⟩

theorem key_mem_of_mem_slotsOf {slot : Slot} (h : slot ∈ slotsOf stem m) :
    slot.key ∈ m.entries.map Prod.fst ∧ Numbers stem slot.key slot.index := by
  obtain ⟨entry, hentry, hslot⟩ := mem_slotsOf_iff.mp h
  rw [hslot.key_eq]
  exact ⟨List.mem_map_of_mem hentry, hslot.numbers⟩

theorem clash_iff (hstem : ∀ c ∈ stem.toList, c.toNat < 128) (hids : HasIds m stem)
    {slot : Slot} (hslot : slot ∈ slotsOf stem m) :
    Slot.Clash (slotsOf stem m) slot ↔ Repeats m stem slot.key slot.index := by
  obtain ⟨hkey, hnumbers⟩ := key_mem_of_mem_slotsOf hslot
  have hkeys := nodup_map_key_slotsOf stem m
  constructor
  · intro h
    refine ⟨hnumbers, ?_, ?_⟩
    · obtain ⟨first, hfirst, hindex, hlt, honly⟩ := h.second
      obtain ⟨hfirstKey, hfirstNumbers⟩ := key_mem_of_mem_slotsOf hfirst
      refine ⟨first.key, hfirstKey, hindex ▸ hfirstNumbers,
        (hfirstNumbers.bytes_lt_iff hstem hnumbers).mpr hlt, fun other hother hn hbefore => ?_⟩
      obtain ⟨s, hs, rfl, hsindex⟩ := exists_slot hids hother hn
      rw [honly s hs hsindex ((hn.bytes_lt_iff hstem hnumbers).mp hbefore)]
    · intro key hkey other hother n hn hn' hne
      obtain ⟨s, hs, rfl, hsindex⟩ := exists_slot hids hkey hn
      obtain ⟨t, ht, rfl, htindex⟩ := exists_slot hids hother hn'
      rw [← hsindex]
      exact h.least s hs t ht (hsindex.trans htindex.symm) fun heq => hne (congrArg Slot.key heq)
  · intro h
    refine ⟨hslot, ?_, ?_⟩
    · obtain ⟨first, hfirst, hn, hlt, honly⟩ := h.second
      obtain ⟨s, hs, rfl, hsindex⟩ := exists_slot hids hfirst hn
      refine ⟨s, hs, hsindex, (hn.bytes_lt_iff hstem hnumbers).mp hlt,
        fun t ht htindex hbefore => ?_⟩
      obtain ⟨htkey, htnumbers⟩ := key_mem_of_mem_slotsOf ht
      have hsame : t.key = s.key := honly t.key htkey (htindex ▸ htnumbers)
        ((htnumbers.bytes_lt_iff hstem hnumbers).mpr hbefore)
      exact List.inj_on_of_nodup_map hkeys ht hs hsame
    · intro s hs t ht hindex hne
      obtain ⟨hskey, hsnumbers⟩ := key_mem_of_mem_slotsOf hs
      obtain ⟨htkey, htnumbers⟩ := key_mem_of_mem_slotsOf ht
      exact h.least s.key hskey t.key htkey s.index hsnumbers (hindex ▸ htnumbers) fun heq =>
        hne (List.inj_on_of_nodup_map hkeys hs ht heq)

theorem ranked_slotsOf_eq_error_iff (hstem : ∀ c ∈ stem.toList, c.toNat < 128)
    (hids : HasIds m stem) {e : ConfigError} :
    Slot.ranked (slotsOf stem m) = .error e ↔
      ∃ key value n id, Repeats m stem key n ∧ (key, value) ∈ m.entries ∧ WritesId value id ∧
        e = .invalid key id.toNat.repr .indexTaken := by
  rw [Slot.ranked_eq_error_iff (nodup_map_key_slotsOf stem m)]
  constructor
  · rintro ⟨slot, hclash, rfl⟩
    obtain ⟨entry, hentry, hslot⟩ := mem_slotsOf_iff.mp hclash.mem
    have hrepeats := (clash_iff hstem hids hclash.mem).mp hclash
    exact ⟨slot.key, entry.2, slot.index, slot.kind.val, hrepeats, hslot.key_eq ▸ hentry,
      hslot.writesId, rfl⟩
  · rintro ⟨key, value, n, id, hrepeats, hentry, hid, rfl⟩
    have hslot : ⟨n, key, ⟨id⟩⟩ ∈ slotsOf stem m :=
      mem_slotsOf_iff.mpr ⟨(key, value), hentry, rfl, hrepeats.numbers, hid⟩
    exact ⟨⟨n, key, ⟨id⟩⟩, (clash_iff hstem hids hslot).mpr hrepeats, rfl⟩

/-! ## Complaints -/

/-- What is wrong with `m`, and the place it has among what can be wrong. -/
inductive Complaint (m : Attributes) : ℕ → ConfigError → Prop
  | malformed {entry : String × String} {fault : Fault} (hentry : entry ∈ m.entries)
      (hnumbered : IsNumbered entry.1) (hfault : IdFault entry.2 fault) :
      Complaint m 0 (.invalid entry.1 entry.2 fault)
  | unnamed (h : ∀ name ∈ bossNames, ∀ value, (name, value) ∉ m.entries) :
      Complaint m 1 (.missing "BossId")
  | boss {name value : String} {fault : Fault} (hnames : NamesBoss m name value)
      (hfault : IdFault value fault) : Complaint m 2 (.invalid name value fault)
  | aura {value : String} {fault : Fault} (hentry : (auraName, value) ∈ m.entries)
      (hfault : IdFault value fault) : Complaint m 3 (.invalid auraName value fault)
  | ignoreBoss {value : String} (hentry : (ignoreName, value) ∈ m.entries)
      (hfault : ∀ b, ¬ Text.WritesBool value b) :
      Complaint m 4 (.invalid ignoreName value .notABoolean)
  | blacklist {key value : String} {n : ℕ} {id : UInt32} (h : Repeats m blacklistStem key n)
      (hentry : (key, value) ∈ m.entries) (hid : WritesId value id) :
      Complaint m 5 (.invalid key id.toNat.repr .indexTaken)
  | killOrder {key value : String} {n : ℕ} {id : UInt32} (h : Repeats m killOrderStem key n)
      (hentry : (key, value) ∈ m.entries) (hid : WritesId value id) :
      Complaint m 6 (.invalid key id.toNat.repr .indexTaken)

/-- `e` is wrong with `m` and nothing with an earlier place is. -/
def FirstComplaint (m : Attributes) (e : ConfigError) : Prop :=
  ∃ place, Complaint m place e ∧ ∀ earlier < place, ∀ other, ¬ Complaint m earlier other

theorem ids_of_quiet (h : ∀ e, ¬ Complaint m 0 e) :
    ∀ entry ∈ m.entries, IsNumbered entry.1 → ∃ id, WritesId entry.2 id := by
  intro entry hentry
  rw [← not_malformed_iff]
  rintro _ ⟨hnumbered, hfault⟩
  exact h _ (.malformed hentry hnumbered hfault)

theorem ranked_blacklist_eq_error_iff (h : ∀ e, ¬ Complaint m 0 e) {e : ConfigError} :
    Slot.ranked (slotsOf blacklistStem m) = .error e ↔ Complaint m 5 e := by
  obtain ⟨hids, -⟩ := hasIds_iff.mpr (ids_of_quiet h)
  rw [ranked_slotsOf_eq_error_iff (by simp [blacklistStem]) hids]
  constructor
  · rintro ⟨key, value, n, id, hrepeats, hentry, hid, rfl⟩
    exact .blacklist hrepeats hentry hid
  · intro hcomplaint
    cases hcomplaint with
    | blacklist hrepeats hentry hid => exact ⟨_, _, _, _, hrepeats, hentry, hid, rfl⟩

theorem ranked_killOrder_eq_error_iff (h : ∀ e, ¬ Complaint m 0 e) {e : ConfigError} :
    Slot.ranked (slotsOf killOrderStem m) = .error e ↔ Complaint m 6 e := by
  obtain ⟨-, hids⟩ := hasIds_iff.mpr (ids_of_quiet h)
  rw [ranked_slotsOf_eq_error_iff (by simp [killOrderStem]) hids]
  constructor
  · rintro ⟨key, value, n, id, hrepeats, hentry, hid, rfl⟩
    exact .killOrder hrepeats hentry hid
  · intro hcomplaint
    cases hcomplaint with
    | killOrder hrepeats hentry hid => exact ⟨_, _, _, _, hrepeats, hentry, hid, rfl⟩

theorem readBoss_eq_error_iff_complaint {e : ConfigError} :
    readBoss m = .error e ↔ Complaint m 1 e ∨ Complaint m 2 e := by
  rw [readBoss_eq_error_iff]
  constructor
  · rintro (⟨hnone, rfl⟩ | ⟨name, value, fault, hnames, hfault, rfl⟩)
    · exact .inl (.unnamed hnone)
    · exact .inr (.boss hnames hfault)
  · intro hcomplaint
    cases hcomplaint with
    | inl hcomplaint =>
        cases hcomplaint with
        | unnamed hnone => exact .inl ⟨hnone, rfl⟩
    | inr hcomplaint =>
        cases hcomplaint with
        | boss hnames hfault => exact .inr ⟨_, _, _, hnames, hfault, rfl⟩

theorem readAura_eq_error_iff_complaint {e : ConfigError} :
    readAura m = .error e ↔ Complaint m 3 e := by
  rw [readAura_eq_error_iff]
  constructor
  · rintro ⟨value, fault, hentry, hfault, rfl⟩
    exact .aura hentry hfault
  · intro hcomplaint
    cases hcomplaint with
    | aura hentry hfault => exact ⟨_, _, hentry, hfault, rfl⟩

theorem readIgnoreBoss_eq_error_iff_complaint {e : ConfigError} :
    readIgnoreBoss m = .error e ↔ Complaint m 4 e := by
  rw [readIgnoreBoss_eq_error_iff]
  constructor
  · rintro ⟨value, hentry, hfault, rfl⟩
    exact .ignoreBoss hentry hfault
  · intro hcomplaint
    cases hcomplaint with
    | ignoreBoss hentry hfault => exact ⟨_, hentry, hfault, rfl⟩

theorem readSlots_eq_ok_iff_quiet {slots : Slots} :
    readSlots m = .ok slots ↔ (∀ e, ¬ Complaint m 0 e) ∧
      slots = { blacklist := slotsOf blacklistStem m, killOrder := slotsOf killOrderStem m } := by
  rw [readSlots_eq_ok_iff]
  refine and_congr_left fun _ => ⟨?_, fun h entry hentry => ?_⟩
  · rintro h _ ⟨hentry, hnumbered, hfault⟩
    exact h _ hentry _ ⟨hnumbered, hfault⟩
  · exact not_malformed_iff.mpr (ids_of_quiet h entry hentry)

theorem complaint_of_readSlots_eq_error {e : ConfigError} (h : readSlots m = .error e) :
    Complaint m 0 e := by
  obtain ⟨before, entry, after, hentries, ⟨hnumbered, hfault⟩, -⟩ := readSlots_eq_error_iff.mp h
  refine .malformed ?_ hnumbered hfault
  rw [hentries]
  exact List.mem_append_right before List.mem_cons_self

/-- What a reader passes has nothing wrong in the place that the reader reports on. -/
theorem quiet_of_ok {α : Type} {answer : Except ConfigError α} {a : α} {place : ℕ}
    (hplace : ∀ {e}, Complaint m place e → answer = .error e) (h : answer = .ok a) :
    ∀ e, ¬ Complaint m place e := by
  intro e hcomplaint
  rw [hplace hcomplaint] at h
  cases h

theorem firstComplaint_of_eq_error {e : ConfigError} (h : ofAttributes m = .error e) :
    FirstComplaint m e := by
  simp only [ofAttributes, bind_eq_error_iff] at h
  obtain hslots | ⟨slots, hslots, h⟩ := h
  · exact ⟨0, complaint_of_readSlots_eq_error hslots, by simp⟩
  obtain ⟨hquiet, rfl⟩ := readSlots_eq_ok_iff_quiet.mp hslots
  obtain hboss | ⟨boss, hboss, h⟩ := h
  · obtain hunnamed | hboss := readBoss_eq_error_iff_complaint.mp hboss
    · exact ⟨1, hunnamed, by simpa using hquiet⟩
    · refine ⟨2, hboss, ?_⟩
      intro earlier hearlier other hother
      interval_cases earlier
      · exact hquiet other hother
      · cases hother with
        | unnamed hnone =>
            cases hboss with
            | boss hnames _ => exact hnone _ hnames.mem_bossNames _ hnames.mem_entries
  -- A reader is not reached before the places of all earlier ones are without complaint.
  have hquiet1 : ∀ e, ¬ Complaint m 1 e :=
    quiet_of_ok (fun h => readBoss_eq_error_iff_complaint.mpr (.inl h)) hboss
  have hquiet2 : ∀ e, ¬ Complaint m 2 e :=
    quiet_of_ok (fun h => readBoss_eq_error_iff_complaint.mpr (.inr h)) hboss
  obtain haura | ⟨aura, haura, h⟩ := h
  · refine ⟨3, readAura_eq_error_iff_complaint.mp haura, fun earlier hearlier => ?_⟩
    interval_cases earlier <;> assumption
  have hquiet3 := quiet_of_ok readAura_eq_error_iff_complaint.mpr haura
  obtain hignore | ⟨ignoreBoss, hignore, h⟩ := h
  · refine ⟨4, readIgnoreBoss_eq_error_iff_complaint.mp hignore, fun earlier hearlier => ?_⟩
    interval_cases earlier <;> assumption
  have hquiet4 := quiet_of_ok readIgnoreBoss_eq_error_iff_complaint.mpr hignore
  obtain hblacklist | ⟨blacklist, hblacklist, h⟩ := h
  · refine ⟨5, (ranked_blacklist_eq_error_iff hquiet).mp hblacklist, fun earlier hearlier => ?_⟩
    interval_cases earlier <;> assumption
  have hquiet5 := quiet_of_ok (ranked_blacklist_eq_error_iff hquiet).mpr hblacklist
  obtain hkillOrder | ⟨killOrder, hkillOrder, h⟩ := h
  · refine ⟨6, (ranked_killOrder_eq_error_iff hquiet).mp hkillOrder, fun earlier hearlier => ?_⟩
    interval_cases earlier <;> assumption
  cases h

theorem Complaint.not_describedBy {place : ℕ} {e : ConfigError} {c : Config}
    (h : Complaint m place e) : ¬ DescribedBy m c := by
  intro hc
  have hrepeats {stem key : String} {n : ℕ} (h : Repeats m stem key n)
      (hkey : key ∈ m.entries.map Prod.fst) : ¬ Apart m stem := by
    intro hapart
    obtain ⟨first, hfirst, hn, hlt, -⟩ := h.second
    obtain ⟨entry, hentry, rfl⟩ := List.mem_map.mp hfirst
    obtain ⟨other, hother, rfl⟩ := List.mem_map.mp hkey
    rw [hapart entry hentry other hother n hn h.numbers] at hlt
    exact List.lt_irrefl _ hlt
  cases h with
  | malformed hentry hnumbered hfault =>
      obtain ⟨id, hid⟩ := hc.ids _ hentry hnumbered
      exact hid.not_idFault hfault
  | unnamed hnone =>
      obtain ⟨name, value, hnames, -⟩ := hc.boss
      exact hnone name hnames.mem_bossNames value hnames.mem_entries
  | boss hnames hfault =>
      obtain ⟨name, value, hnames', hid⟩ := hc.boss
      obtain ⟨rfl, rfl⟩ := hnames.unique hnames'
      exact hid.not_idFault hfault
  | aura hentry hfault =>
      obtain ⟨value, hentry', hid⟩ | ⟨hnone, -⟩ := hc.aura
      · obtain rfl := m.value_unique hentry hentry'
        exact hid.not_idFault hfault
      · exact hnone _ hentry
  | ignoreBoss hentry hfault =>
      obtain ⟨value, hentry', hb⟩ | ⟨hnone, -⟩ := hc.ignoreBoss
      · obtain rfl := m.value_unique hentry hentry'
        exact hfault _ hb
      · exact hnone _ hentry
  | blacklist h hentry _ => exact hrepeats h (List.mem_map_of_mem hentry) hc.apart.1
  | killOrder h hentry _ => exact hrepeats h (List.mem_map_of_mem hentry) hc.apart.2

/-- At most one of the numbered attributes is malformed. -/
def OneMalformed (m : Attributes) : Prop :=
  ∀ entry ∈ m.entries, ∀ other ∈ m.entries, (∃ e, Malformed entry e) → (∃ e, Malformed other e) →
    entry = other

theorem Complaint.unique (hone : OneMalformed m) {place : ℕ} {e e' : ConfigError}
    (hquiet : 0 < place → ∀ e, ¬ Complaint m 0 e) (h : Complaint m place e)
    (h' : Complaint m place e') : e = e' := by
  have hsame {α : Type} {answer : Except ConfigError α}
      (hplace : ∀ {e}, Complaint m place e → answer = .error e) : e = e' :=
    Except.error.inj ((hplace h).symm.trans (hplace h'))
  have hplace : place ≤ 6 := by cases h <;> decide
  interval_cases place
  · cases h with
    | malformed hentry hnumbered hfault =>
        cases h' with
        | malformed hentry' hnumbered' hfault' =>
            obtain rfl := hone _ hentry _ hentry' ⟨_, hnumbered, hfault⟩ ⟨_, hnumbered', hfault'⟩
            rw [hfault.unique hfault']
  · exact hsame fun h => readBoss_eq_error_iff_complaint.mpr (.inl h)
  · exact hsame fun h => readBoss_eq_error_iff_complaint.mpr (.inr h)
  · exact hsame readAura_eq_error_iff_complaint.mpr
  · exact hsame readIgnoreBoss_eq_error_iff_complaint.mpr
  · exact hsame (ranked_blacklist_eq_error_iff (hquiet (by decide))).mpr
  · exact hsame (ranked_killOrder_eq_error_iff (hquiet (by decide))).mpr

theorem FirstComplaint.unique (hone : OneMalformed m) {e e' : ConfigError}
    (h : FirstComplaint m e) (h' : FirstComplaint m e') : e = e' := by
  obtain ⟨place, hcomplaint, hquiet⟩ := h
  obtain ⟨place', hcomplaint', hquiet'⟩ := h'
  obtain hlt | rfl | hlt := lt_trichotomy place place'
  · exact absurd hcomplaint (hquiet' place hlt e)
  · exact hcomplaint.unique hone (hquiet 0) hcomplaint'
  · exact absurd hcomplaint' (hquiet place' hlt e')

theorem ofAttributes_eq_error_iff (hone : OneMalformed m) {e : ConfigError} :
    ofAttributes m = .error e ↔ FirstComplaint m e := by
  constructor
  · exact firstComplaint_of_eq_error
  · intro h
    cases hattributes : ofAttributes m with
    | ok c =>
        obtain ⟨place, hcomplaint, -⟩ := h
        exact absurd (ofAttributes_eq_ok_iff.mp hattributes) hcomplaint.not_describedBy
    | error e' => rw [h.unique hone (firstComplaint_of_eq_error hattributes)]

/-! ## Reordered attributes -/

theorem DescribedBy.of_perm (hperm : m'.entries.Perm m.entries) {c : Config}
    (h : DescribedBy m c) : DescribedBy m' c where
  ids := by simpa only [hperm.mem_iff] using h.ids
  apart := by simpa only [Apart, hperm.mem_iff] using h.apart
  boss := by simpa only [NamesBoss, hperm.mem_iff] using h.boss
  aura := by simpa only [hperm.mem_iff] using h.aura
  ignoreBoss := by simpa only [hperm.mem_iff] using h.ignoreBoss
  blacklist := by simpa only [Ranks, hperm.mem_iff] using h.blacklist
  killOrder := by simpa only [Ranks, hperm.mem_iff] using h.killOrder

theorem Repeats.of_perm (hperm : m'.entries.Perm m.entries) {key : String} {n : ℕ}
    (h : Repeats m stem key n) : Repeats m' stem key n where
  numbers := h.numbers
  second := by simpa only [(hperm.map Prod.fst).mem_iff] using h.second
  least := by simpa only [(hperm.map Prod.fst).mem_iff] using h.least

theorem Complaint.of_perm (hperm : m'.entries.Perm m.entries) {place : ℕ} {e : ConfigError}
    (h : Complaint m place e) : Complaint m' place e := by
  have hmem (entry : String × String) : entry ∈ m.entries ↔ entry ∈ m'.entries :=
    hperm.symm.mem_iff
  cases h with
  | malformed hentry hnumbered hfault =>
      exact .malformed ((hmem _).mp hentry) hnumbered hfault
  | unnamed hnone =>
      exact .unnamed fun name hname value hentry => hnone name hname value ((hmem _).mpr hentry)
  | boss hnames hfault =>
      refine .boss ?_ hfault
      simpa only [NamesBoss, hmem] using hnames
  | aura hentry hfault => exact .aura ((hmem _).mp hentry) hfault
  | ignoreBoss hentry hfault => exact .ignoreBoss ((hmem _).mp hentry) hfault
  | blacklist h hentry hid => exact .blacklist (h.of_perm hperm) ((hmem _).mp hentry) hid
  | killOrder h hentry hid => exact .killOrder (h.of_perm hperm) ((hmem _).mp hentry) hid

theorem FirstComplaint.of_perm (hperm : m'.entries.Perm m.entries) {e : ConfigError}
    (h : FirstComplaint m e) : FirstComplaint m' e := by
  obtain ⟨place, hcomplaint, hquiet⟩ := h
  exact ⟨place, hcomplaint.of_perm hperm,
    fun earlier hlt other hother => hquiet earlier hlt other (hother.of_perm hperm.symm)⟩

theorem OneMalformed.of_perm (hperm : m'.entries.Perm m.entries) (h : OneMalformed m) :
    OneMalformed m' :=
  fun entry hentry other hother =>
    h entry (hperm.mem_iff.mp hentry) other (hperm.mem_iff.mp hother)

theorem ofAttributes_eq_ok_iff_of_perm (hperm : m'.entries.Perm m.entries) (c : Config) :
    ofAttributes m' = .ok c ↔ ofAttributes m = .ok c := by
  rw [ofAttributes_eq_ok_iff, ofAttributes_eq_ok_iff]
  exact ⟨fun h => h.of_perm hperm.symm, fun h => h.of_perm hperm⟩

theorem ofAttributes_eq_of_perm (hperm : m'.entries.Perm m.entries) (hone : OneMalformed m) :
    ofAttributes m' = ofAttributes m := by
  cases hattributes : ofAttributes m with
  | ok c => exact (ofAttributes_eq_ok_iff_of_perm hperm c).mpr hattributes
  | error e =>
      rw [ofAttributes_eq_error_iff hone] at hattributes
      exact (ofAttributes_eq_error_iff (hone.of_perm hperm)).mpr (hattributes.of_perm hperm)

/-- In whatever order the map is gone through, it is accepted for the same configuration or refused;
and where no more than one of the numbered attributes is malformed, what is reported is the same as
well, the first complaint there is. -/
theorem ofAttributes_of_reordered (hperm : m'.entries.Perm m.entries) :
    (∀ c, ofAttributes m' = .ok c ↔ ofAttributes m = .ok c) ∧
      (OneMalformed m → ofAttributes m' = ofAttributes m ∧
        ∀ e, ofAttributes m = .error e ↔ FirstComplaint m e) :=
  ⟨ofAttributes_eq_ok_iff_of_perm hperm,
    fun hone => ⟨ofAttributes_eq_of_perm hperm hone, fun _ => ofAttributes_eq_error_iff hone⟩⟩

theorem ofAttributes_of_reordered_repeated :
    let m : Attributes :=
      { entries := [("BossId", "100"), ("KillOrder1", "200"), ("KillOrder01", "201")]
        nodup_keys := by decide }
    let m' : Attributes :=
      { entries := [("KillOrder01", "201"), ("KillOrder1", "200"), ("BossId", "100")]
        nodup_keys := by decide }
    m'.entries.Perm m.entries ∧ OneMalformed m ∧ ofAttributes m' = ofAttributes m ∧
      FirstComplaint m (.invalid "KillOrder1" "200" .indexTaken) := by
  intro m m'
  have hperm : m'.entries.Perm m.entries := List.reverse_perm m.entries
  have hslots : readSlots m = .ok
      { killOrder := [⟨1, "KillOrder1", ⟨200⟩⟩, ⟨1, "KillOrder01", ⟨201⟩⟩] } := by decide +kernel
  have hone : OneMalformed m := by
    intro entry hentry _ _ hmalformed
    obtain ⟨e, he⟩ := hmalformed
    exact absurd he ((readSlots_eq_ok_iff.mp hslots).1 entry hentry e)
  have hsort : [⟨1, "KillOrder01", ⟨201⟩⟩, ⟨1, "KillOrder1", ⟨200⟩⟩] =
      List.mergeSort [⟨1, "KillOrder1", ⟨200⟩⟩, ⟨1, "KillOrder01", ⟨201⟩⟩] Slot.le :=
    Slot.eq_mergeSort (by decide) (List.Perm.swap _ _ _)
      (List.pairwise_pair.mpr (.inr ⟨rfl, by decide⟩))
  have hranked : Slot.ranked [⟨1, "KillOrder1", ⟨200⟩⟩, ⟨1, "KillOrder01", ⟨201⟩⟩] =
      .error (.invalid "KillOrder1" "200" .indexTaken) := by
    rw [Slot.ranked, ← hsort]
    rfl
  have hattributes : ofAttributes m = .error (.invalid "KillOrder1" "200" .indexTaken) := by
    simp only [ofAttributes, hslots, bind, Except.bind, hranked]
    decide +kernel
  obtain ⟨-, hreported⟩ := ofAttributes_of_reordered hperm
  obtain ⟨hsame, hfirst⟩ := hreported hone
  exact ⟨hperm, hone, hsame, (hfirst _).mp hattributes⟩

end Encounter.Config
