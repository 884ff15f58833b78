import Encounter.Proofs.Config.Acceptance

/-!
# Attributes whose numbers do not fit

The numbers of the two ranked lists are 32-bit words.  An attribute whose digits denote a greater
number is no attribute of its list, so it is passed over like any other name that means nothing.
The lists of a configuration therefore fall short of the attributes that are numbered for them by
exactly those with too great a number.
-/

namespace Encounter.Config

/-! ## Digits behind a stem -/

/-- `key` is the stem `stem` with one or more digits behind it. -/
def Suffixed (stem key : String) : Prop :=
  ∃ digits, key.toList = stem.toList ++ digits ∧ digits ≠ [] ∧ ∀ c ∈ digits, c.isDigit = true

/-- `key` is the stem `stem` with digits behind it that denote more than a 32-bit word holds. -/
def Overlong (stem key : String) : Prop :=
  ∃ digits n, key.toList = stem.toList ++ digits ∧ Text.Numeral digits n ∧ UInt32.size ≤ n

/-- The number behind the stem, of whatever size. -/
def suffix? (stem key : String) : Option ℕ :=
  (stem.toList.isPrefixOf? key.toList).bind Text.Decimal.digits?

variable {stem key : String} {n : ℕ}

theorem suffix?_eq_some_iff :
    suffix? stem key = some n ↔
      ∃ digits, key.toList = stem.toList ++ digits ∧ Text.Numeral digits n := by
  simp only [suffix?, Option.bind_eq_some_iff, List.isPrefixOf?_eq_some_iff_append_eq,
    Text.digits?_eq_some_iff]
  exact exists_congr fun digits => and_congr_left fun _ => eq_comm

theorem exists_numeral_iff {digits : List Char} :
    (∃ n, Text.Numeral digits n) ↔ digits ≠ [] ∧ ∀ c ∈ digits, c.isDigit = true := by
  constructor
  · rintro ⟨n, h⟩
    exact ⟨h.ne_nil, h.isDigit⟩
  · rintro ⟨hne, hall⟩
    obtain ⟨values, hvalues, rfl⟩ := Text.exists_map_digitChar hall
    exact ⟨_, values, by simpa using hne, hvalues, rfl, rfl⟩

theorem isSome_suffix?_iff : (suffix? stem key).isSome = true ↔ Suffixed stem key := by
  simp only [Option.isSome_iff_exists, suffix?_eq_some_iff, Suffixed, ← exists_numeral_iff]
  constructor
  · rintro ⟨n, digits, hkey, hn⟩
    exact ⟨digits, hkey, n, hn⟩
  · rintro ⟨digits, hkey, n, hn⟩
    exact ⟨n, digits, hkey, hn⟩

theorem any_suffix?_iff :
    (suffix? stem key).any (UInt32.size ≤ ·) = true ↔ Overlong stem key := by
  simp only [Option.any_eq_true, suffix?_eq_some_iff, decide_eq_true_eq, Overlong]
  constructor
  · rintro ⟨n, ⟨digits, hkey, hn⟩, hle⟩
    exact ⟨digits, n, hkey, hn, hle⟩
  · rintro ⟨digits, n, hkey, hn, hle⟩
    exact ⟨n, ⟨digits, hkey, hn⟩, hle⟩

instance (stem key : String) : Decidable (Suffixed stem key) :=
  decidable_of_iff _ isSome_suffix?_iff

instance (stem key : String) : Decidable (Overlong stem key) :=
  decidable_of_iff _ any_suffix?_iff

/-- Digits behind a stem make an attribute of its list or are too many. -/
theorem suffixed_iff : Suffixed stem key ↔ (∃ n, Numbers stem key n) ∨ Overlong stem key := by
  rw [← isSome_suffix?_iff, Option.isSome_iff_exists]
  simp only [suffix?_eq_some_iff, Numbers, Overlong]
  constructor
  · rintro ⟨n, digits, hkey, hn⟩
    by_cases hlt : n < UInt32.size
    · exact .inl ⟨n, digits, hkey, hn, hlt⟩
    · exact .inr ⟨digits, n, hkey, hn, not_lt.mp hlt⟩
  · rintro (⟨n, digits, hkey, hn, -⟩ | ⟨digits, n, hkey, hn, -⟩)
    · exact ⟨n, digits, hkey, hn⟩
    · exact ⟨n, digits, hkey, hn⟩

theorem Numbers.not_overlong (h : Numbers stem key n) : ¬ Overlong stem key := by
  rintro ⟨digits', n', hkey', hn', hle⟩
  obtain ⟨digits, hkey, hn, hlt⟩ := h
  have hdigits : digits = digits' := List.append_cancel_left (hkey.symm.trans hkey')
  subst hdigits
  exact absurd hlt (not_lt.mpr (hn.unique hn' ▸ hle))

/-! ## Counting -/

/-- Where each element that is counted is so for one of two reasons, the counts add up. -/
theorem countP_eq_add {α : Type} {p q r : α → Bool} {l : List α}
    (h : ∀ a ∈ l, p a = true ↔ q a = true ∨ r a = true)
    (hapart : ∀ a ∈ l, q a = true → r a = false) : l.countP p = l.countP q + l.countP r := by
  induction l with
  | nil => rfl
  | cons a l ih =>
      obtain ⟨ha, hl⟩ := List.forall_mem_cons.mp h
      obtain ⟨hapartHead, hapartTail⟩ := List.forall_mem_cons.mp hapart
      rw [List.countP_cons, List.countP_cons, List.countP_cons, ih hl hapartTail]
      cases hq : q a with
      | true =>
          have hr : r a = false := hapartHead hq
          have hp : p a = true := ha.mpr (.inl hq)
          simp only [hp, hr, if_true, Bool.false_eq_true, if_false]
          omega
      | false =>
          have hpr : p a = r a := by
            rw [Bool.eq_iff_iff, ha, hq]
            simp
          rw [hpr]
          simp only [Bool.false_eq_true, if_false]
          omega

variable {m : Attributes} {kinds : List Kind} {c : Config}

theorem length_of_ranked (h : Slot.ranked (slotsOf stem m) = .ok kinds) :
    kinds.length = (slotsOf stem m).length := by
  rcases Slot.ranked_cases (nodup_map_key_slotsOf stem m) with
    ⟨ranking, hperm, -, hranked⟩ | ⟨slot, -, hranked⟩
  · rw [h] at hranked
    rw [Except.ok.inj hranked, List.length_map, hperm.length_eq]
  · rw [h] at hranked
    cases hranked

theorem isSome_slot?_iff {entry : String × String} (hids : HasIds m stem)
    (hentry : entry ∈ m.entries) :
    (slot? stem entry).isSome = true ↔ ∃ n, Numbers stem entry.1 n := by
  constructor
  · intro h
    obtain ⟨slot, hslot⟩ := Option.isSome_iff_exists.mp h
    exact ⟨slot.index, (slot?_eq_some_iff.mp hslot).numbers⟩
  · rintro ⟨n, hn⟩
    obtain ⟨id, hid⟩ := hids entry hentry n hn
    have hslot : slot? stem entry = some ⟨n, entry.1, ⟨id⟩⟩ :=
      slot?_eq_some_iff.mpr ⟨rfl, hn, hid⟩
    rw [hslot]
    rfl

/-- The numbered attributes are the slots of the list and those that do not fit. -/
theorem countP_suffixed (hids : HasIds m stem) :
    (m.entries.map Prod.fst).countP (Suffixed stem ·) =
      (slotsOf stem m).length + (m.entries.map Prod.fst).countP (Overlong stem ·) := by
  rw [List.countP_map, List.countP_map, slotsOf, List.length_filterMap_eq_countP]
  apply countP_eq_add
  · intro entry hentry
    rw [isSome_slot?_iff hids hentry]
    simp only [Function.comp_apply, decide_eq_true_eq]
    exact suffixed_iff
  · intro entry hentry hslot
    obtain ⟨n, hn⟩ := (isSome_slot?_iff hids hentry).mp hslot
    simpa using hn.not_overlong

/-- Of the attributes with digits behind the stem of a list, an accepted configuration has all but
those whose digits denote too great a number. -/
theorem length_add_overlong_eq (h : ofAttributes m = .ok c) :
    c.killOrder.length + (m.entries.map Prod.fst).countP (Overlong killOrderStem ·) =
        (m.entries.map Prod.fst).countP (Suffixed killOrderStem ·) ∧
      c.blacklist.length + (m.entries.map Prod.fst).countP (Overlong blacklistStem ·) =
        (m.entries.map Prod.fst).countP (Suffixed blacklistStem ·) := by
  obtain ⟨hwell, -, -, -, hblacklist, hkillOrder⟩ := ofAttributes_eq_ok_iff_readers.mp h
  simp only [not_malformed_iff] at hwell
  obtain ⟨hblacklistIds, hkillOrderIds⟩ := hasIds_iff.mpr hwell
  rw [countP_suffixed hkillOrderIds, countP_suffixed hblacklistIds, length_of_ranked hkillOrder,
    length_of_ranked hblacklist]
  exact ⟨rfl, rfl⟩

theorem length_add_overlong_eq_two_ranks :
    let m : Attributes :=
      { entries := [("KillOrder4294967296", "201"), ("BossId", "100"), ("KillOrder1", "200")]
        nodup_keys := by decide }
    let c : Config := { boss := ⟨100⟩, killOrder := [⟨200⟩] }
    ofAttributes m = .ok c ∧
      c.killOrder.length + (m.entries.map Prod.fst).countP (Overlong killOrderStem ·) =
        (m.entries.map Prod.fst).countP (Suffixed killOrderStem ·) := by
  intro m c
  have hread : ofAttributes m = .ok c := by decide +kernel
  exact ⟨hread, (length_add_overlong_eq hread).1⟩

/-- The lists of a configuration need not have a kind for every attribute with digits behind their
stem: one with too great a number is lost. -/
theorem overlong_rank_lost :
    ¬ ∀ (m : Attributes) (c : Config), ofAttributes m = .ok c →
      c.killOrder.length = (m.entries.map Prod.fst).countP (Suffixed killOrderStem ·) ∧
        c.blacklist.length = (m.entries.map Prod.fst).countP (Suffixed blacklistStem ·) := by
  intro h
  let m : Attributes :=
    { entries := [("BossId", "100"), ("KillOrder4294967296", "200")]
      nodup_keys := by decide }
  have hread : ofAttributes m = .ok { boss := ⟨100⟩ } := by decide +kernel
  have hcount : (m.entries.map Prod.fst).countP (Suffixed killOrderStem ·) = 1 := by decide
  obtain ⟨hlength, -⟩ := h m _ hread
  rw [hcount] at hlength
  cases hlength

end Encounter.Config
