import Encounter.Exclusions
import Mathlib.Data.List.Nodup

/-!
# Entries and expiries

An exclusion set is read through the expiry of each identity.  No identity has two entries, so the
expiry of an identity is `some expiry` exactly when that entry is stored, and what adding and
pruning do to a set is told by what they do to the expiries.
-/

namespace Encounter

/-- Where keys are distinct, each element is what the search for its key finds. -/
theorem find?_eq_of_nodup_map {α β : Type} [DecidableEq β] {key : α → β} {l : List α}
    (hkeys : (l.map key).Nodup) {a : α} (hmem : a ∈ l) : l.find? (key · == key a) = some a := by
  have hsome : (l.find? (key · == key a)).isSome = true :=
    List.find?_isSome.mpr ⟨a, hmem, beq_self_eq_true _⟩
  obtain ⟨b, hfind⟩ := Option.isSome_iff_exists.mp hsome
  have hkey : key b = key a := by simpa using List.find?_some hfind
  rw [hfind, List.inj_on_of_nodup_map hkeys (List.mem_of_find?_eq_some hfind) hmem hkey]

namespace Exclusions

variable {s : Exclusions} {guid other : Guid} {expiry now later : Timestamp}
variable {span : Span}

theorem expiry?_eq_some_iff : s.expiry? guid = some expiry ↔ (guid, expiry) ∈ s.entries := by
  constructor
  · intro h
    obtain ⟨entry, hfind, rfl⟩ := Option.map_eq_some_iff.mp h
    have hguid : entry.1 = guid := by simpa using List.find?_some hfind
    rw [← hguid]
    exact List.mem_of_find?_eq_some hfind
  · intro hmem
    rw [expiry?, find?_eq_of_nodup_map s.nodup_keys hmem]
    rfl

theorem contains_iff :
    s.contains guid now = true ↔ ∃ expiry, s.expiry? guid = some expiry ∧ now < expiry := by
  rw [contains]
  cases s.expiry? guid <;> simp

theorem expiry?_prune_iff :
    (s.prune now).expiry? guid = some expiry ↔ s.expiry? guid = some expiry ∧ now < expiry := by
  simp [expiry?_eq_some_iff, prune]

theorem expiry?_add_self (span : Span) :
    (s.add guid span now).2.expiry? guid = some (now.after span) := by
  rw [add, expiry?_insert, if_pos rfl]

/-- Adding one identity drops the entries of others that have expired, and no more. -/
theorem expiry?_add_iff_of_ne (hne : other ≠ guid) (span : Span) :
    (s.add guid span now).2.expiry? other = some expiry ↔
      s.expiry? other = some expiry ∧ now < expiry := by
  rw [add, expiry?_insert, if_neg hne, expiry?_prune_iff]

/-! ## Readings from then on -/

theorem not_contains_of_le (h : s.contains guid now = false) (hle : now ≤ later) :
    s.contains guid later = false := by
  by_contra hcontains
  obtain ⟨expiry, hexpiry, hlt⟩ := contains_iff.mp (by simpa using hcontains)
  have hnow := contains_iff.mpr ⟨expiry, hexpiry, Timestamp.lt_of_le_of_lt hle hlt⟩
  simp [h] at hnow

theorem contains_add_self (hlt : later < now.after span) :
    (s.add guid span now).2.contains guid later = true :=
  contains_iff.mpr ⟨_, expiry?_add_self span, hlt⟩

/-- Adding one identity hides nothing of others from readings that are not before it. -/
theorem contains_add_of_ne (hne : other ≠ guid) (hle : now ≤ later) :
    (s.add guid span now).2.contains other later = s.contains other later := by
  rw [Bool.eq_iff_iff, contains_iff, contains_iff]
  simp only [expiry?_add_iff_of_ne hne]
  constructor
  · rintro ⟨expiry, ⟨hexpiry, -⟩, hlt⟩
    exact ⟨expiry, hexpiry, hlt⟩
  · rintro ⟨expiry, hexpiry, hlt⟩
    exact ⟨expiry, ⟨hexpiry, Timestamp.lt_of_le_of_lt hle hlt⟩, hlt⟩

end Exclusions

end Encounter
