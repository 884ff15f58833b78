import Encounter.Config.Attributes
import Mathlib.Data.List.Sort
import Mathlib.Data.String.Basic

/-!
# Slots in order

Slots are ranked by number, and by key where two claim one number.  Keys are distinct, so this is a
strict order and leaves one way to arrange any slots: how they came is forgotten.  In that
arrangement slots with one number are neighbours, and the first neighbours alike are the first two
that claim the least number claimed twice.
-/

namespace Encounter.Config.Slot

/-- `s` is ranked before `t`. -/
def Precedes (s t : Slot) : Prop :=
  s.index < t.index ∨ s.index = t.index ∧ s.key < t.key

theorem Precedes.index_le {s t : Slot} (h : s.Precedes t) : s.index ≤ t.index := by
  rcases h with h | h
  · exact h.le
  · exact h.1.le

theorem Precedes.asymm {s t : Slot} (h : s.Precedes t) : ¬ t.Precedes s := by
  intro h'
  rcases h with hlt | ⟨heq, hkey⟩
  · exact absurd h'.index_le (Nat.not_le.mpr hlt)
  · rcases h' with hlt | ⟨-, hkey'⟩
    · omega
    · exact lt_asymm hkey hkey'

theorem le_iff {s t : Slot} :
    le s t = true ↔ s.index < t.index ∨ s.index = t.index ∧ s.key ≤ t.key := by
  simp [le]

theorem precedes_of_le {s t : Slot} (h : le s t = true) (hne : s.key ≠ t.key) : s.Precedes t := by
  rcases le_iff.mp h with hlt | ⟨heq, hkey⟩
  · exact .inl hlt
  · exact .inr ⟨heq, lt_of_le_of_ne hkey hne⟩

theorem le_of_le_of_le (s t u : Slot) (hst : le s t = true) (htu : le t u = true) :
    le s u = true := by
  rw [le_iff] at *
  rcases hst with hst | ⟨hst, hkey⟩ <;> rcases htu with htu | ⟨htu, hkey'⟩
  · exact .inl (hst.trans htu)
  · exact .inl (htu ▸ hst)
  · exact .inl (hst ▸ htu)
  · exact .inr ⟨hst.trans htu, le_trans hkey hkey'⟩

theorem le_or_le (s t : Slot) : (le s t || le t s) = true := by
  rw [Bool.or_eq_true, le_iff, le_iff]
  rcases Nat.lt_trichotomy s.index t.index with h | h | h
  · exact .inl (.inl h)
  · rcases le_total s.key t.key with hkey | hkey
    · exact .inl (.inr ⟨h, hkey⟩)
    · exact .inr (.inr ⟨h.symm, hkey⟩)
  · exact .inr (.inl h)

/-! ## One arrangement -/

variable {slots slots' : List Slot}

theorem pairwise_precedes_mergeSort (hkeys : (slots.map key).Nodup) :
    (slots.mergeSort le).Pairwise Precedes := by
  have hsorted : (slots.mergeSort le).Pairwise fun s t => le s t = true :=
    List.pairwise_mergeSort le_of_le_of_le le_or_le slots
  have hnodup : (slots.mergeSort le).Pairwise (·.key ≠ ·.key) :=
    List.pairwise_map.mp (((List.mergeSort_perm slots le).map key).nodup_iff.mpr hkeys)
  exact hsorted.imp₂ (fun s t => precedes_of_le) hnodup

/-- Slots are arranged in one way only. -/
theorem eq_mergeSort (hkeys : (slots.map key).Nodup) {ranking : List Slot}
    (hperm : ranking.Perm slots) (hranking : ranking.Pairwise Precedes) :
    ranking = slots.mergeSort le :=
  List.Perm.eq_of_pairwise (fun _ _ _ _ h h' => absurd h' h.asymm) hranking
    (pairwise_precedes_mergeSort hkeys) (hperm.trans (List.mergeSort_perm slots le).symm)

/-! ## Numbers claimed twice -/

/-- `slot` is the second of the slots that claim the least number claimed twice. -/
structure Clash (slots : List Slot) (slot : Slot) : Prop where
  mem : slot ∈ slots
  second : ∃ first ∈ slots, first.index = slot.index ∧ first.key < slot.key ∧
    ∀ other ∈ slots, other.index = slot.index → other.key < slot.key → other = first
  least : ∀ s ∈ slots, ∀ t ∈ slots, s.index = t.index → s ≠ t → slot.index ≤ s.index

theorem Clash.unique {slot slot' : Slot} (hkeys : (slots.map key).Nodup) (h : Clash slots slot)
    (h' : Clash slots slot') : slot = slot' := by
  obtain ⟨first, hfirst, hindex, hkey, honly⟩ := h.second
  obtain ⟨first', hfirst', hindex', hkey', honly'⟩ := h'.second
  -- Each number is claimed twice, so neither is below the other.
  have hle : slot.index ≤ slot'.index := by
    rw [← hindex']
    refine h.least first' hfirst' slot' h'.mem hindex' fun heq => ?_
    exact lt_irrefl _ (heq ▸ hkey')
  have hle' : slot'.index ≤ slot.index := by
    rw [← hindex]
    refine h'.least first hfirst slot h.mem hindex fun heq => ?_
    exact lt_irrefl _ (heq ▸ hkey)
  have heq : slot.index = slot'.index := le_antisymm hle hle'
  rcases lt_trichotomy slot.key slot'.key with hlt | hsame | hlt
  · have hslot : slot = first' := honly' slot h.mem heq hlt
    have hfirst := honly' first hfirst (hindex.trans heq) (hkey.trans hlt)
    exact absurd hkey (by rw [hfirst, hslot]; exact lt_irrefl _)
  · exact List.inj_on_of_nodup_map hkeys h.mem h'.mem hsame
  · have hslot : slot' = first := honly slot' h'.mem heq.symm hlt
    have hfirst' := honly first' hfirst' (hindex'.trans heq.symm) (hkey'.trans hlt)
    exact absurd hkey' (by rw [hfirst', hslot]; exact lt_irrefl _)

/-- A slot with a number below all others has no part in a clash. -/
theorem Clash.cons {s slot : Slot} (hs : ∀ t ∈ slots, s.index < t.index) (h : Clash slots slot) :
    Clash (s :: slots) slot where
  mem := List.mem_cons_of_mem s h.mem
  second := by
    obtain ⟨first, hfirst, hindex, hkey, honly⟩ := h.second
    refine ⟨first, List.mem_cons_of_mem s hfirst, hindex, hkey, fun other hother hsame hlt => ?_⟩
    rcases List.mem_cons.mp hother with rfl | hother
    · exact absurd hsame (hs slot h.mem).ne
    · exact honly other hother hsame hlt
  least := by
    intro t ht u hu hsame hne
    rcases List.mem_cons.mp ht with rfl | htail
    · rcases List.mem_cons.mp hu with rfl | hutail
      · exact absurd rfl hne
      · exact absurd hsame (hs u hutail).ne
    · rcases List.mem_cons.mp hu with rfl | hutail
      · exact absurd hsame.symm (hs t htail).ne
      · exact h.least t htail u hutail hsame hne

theorem clash_of_neighbours {s t : Slot} (h : (s :: t :: slots).Pairwise Precedes)
    (hsame : s.index = t.index) : Clash (s :: t :: slots) t := by
  obtain ⟨hs, hrest⟩ := List.pairwise_cons.mp h
  obtain ⟨ht, -⟩ := List.pairwise_cons.mp hrest
  have hkey : s.key < t.key := by
    rcases hs t List.mem_cons_self with hlt | ⟨-, hkey⟩
    · exact absurd hsame hlt.ne
    · exact hkey
  have hleast : ∀ u ∈ s :: t :: slots, t.index ≤ u.index := by
    intro u hu
    rcases List.mem_cons.mp hu with rfl | hu
    · exact hsame.ge
    · rcases List.mem_cons.mp hu with rfl | hu
      · exact le_refl _
      · exact (ht u hu).index_le
  refine ⟨by simp, ⟨s, List.mem_cons_self, hsame, hkey, fun other hother hother' hlt => ?_⟩,
    fun u hu v _ _ _ => hleast u hu⟩
  rcases List.mem_cons.mp hother with rfl | hother
  · rfl
  · rcases List.mem_cons.mp hother with rfl | hother
    · exact absurd hlt (lt_irrefl _)
    · rcases ht other hother with hbefore | ⟨-, hbefore⟩
      · exact absurd hother' hbefore.ne'
      · exact absurd hlt (lt_asymm hbefore)

/-- A list in order either has strictly increasing numbers or ends in the report of a clash. -/
theorem firstClash?_cases (h : slots.Pairwise Precedes) :
    firstClash? slots = none ∧ slots.Pairwise (·.index < ·.index) ∨
      ∃ slot, firstClash? slots = some slot ∧ Clash slots slot := by
  induction slots with
  | nil => exact .inl ⟨rfl, List.Pairwise.nil⟩
  | cons s slots ih =>
      cases slots with
      | nil => exact .inl ⟨rfl, List.pairwise_singleton _ s⟩
      | cons t slots =>
          obtain ⟨hs, hrest⟩ := List.pairwise_cons.mp h
          by_cases hsame : s.index = t.index
          · exact .inr ⟨t, if_pos hsame, clash_of_neighbours h hsame⟩
          · have hstep : firstClash? (s :: t :: slots) = firstClash? (t :: slots) := if_neg hsame
            -- A first slot that differs from its neighbour is below all that follow.
            have hbelow : ∀ u ∈ t :: slots, s.index < u.index := by
              intro u hu
              have hst : s.index < t.index :=
                lt_of_le_of_ne (hs t List.mem_cons_self).index_le hsame
              rcases List.mem_cons.mp hu with rfl | hu
              · exact hst
              · exact hst.trans_le ((List.pairwise_cons.mp hrest).1 u hu).index_le
            rw [hstep]
            rcases ih hrest with ⟨hnone, hstrict⟩ | ⟨slot, hsome, hclash⟩
            · exact .inl ⟨hnone, List.pairwise_cons.mpr ⟨hbelow, hstrict⟩⟩
            · exact .inr ⟨slot, hsome, hclash.cons hbelow⟩

theorem Clash.of_perm {slot : Slot} (hperm : slots'.Perm slots) (h : Clash slots slot) :
    Clash slots' slot where
  mem := hperm.mem_iff.mpr h.mem
  second := by
    obtain ⟨first, hfirst, hindex, hkey, honly⟩ := h.second
    exact ⟨first, hperm.mem_iff.mpr hfirst, hindex, hkey,
      fun other hother => honly other (hperm.mem_iff.mp hother)⟩
  least := fun s hs t ht => h.least s (hperm.mem_iff.mp hs) t (hperm.mem_iff.mp ht)

/-- What ranking slots comes to. -/
theorem ranked_cases (hkeys : (slots.map key).Nodup) :
    (∃ ranking : List Slot, ranking.Perm slots ∧ ranking.Pairwise (·.index < ·.index) ∧
      ranked slots = .ok (ranking.map kind)) ∨
    ∃ slot, Clash slots slot ∧
      ranked slots = .error (.invalid slot.key slot.kind.text .indexTaken) := by
  have hperm := List.mergeSort_perm slots le
  rcases firstClash?_cases (pairwise_precedes_mergeSort hkeys) with
    ⟨hnone, hstrict⟩ | ⟨slot, hsome, hclash⟩
  · refine .inl ⟨_, hperm, hstrict, ?_⟩
    rw [ranked, hnone]
  · refine .inr ⟨slot, hclash.of_perm hperm.symm, ?_⟩
    rw [ranked, hsome]

theorem Clash.not_pairwise {slot : Slot} {ranking : List Slot} (h : Clash slots slot)
    (hperm : ranking.Perm slots) : ¬ ranking.Pairwise (·.index < ·.index) := by
  intro hstrict
  obtain ⟨first, hfirst, hindex, hkey, -⟩ := h.second
  have hindices : (ranking.map index).Nodup := List.pairwise_map.mpr (hstrict.imp fun h => h.ne)
  have hsame : first = slot := List.inj_on_of_nodup_map hindices
    (hperm.mem_iff.mpr hfirst) (hperm.mem_iff.mpr h.mem) hindex
  exact lt_irrefl _ (hsame ▸ hkey)

/-- Slots with a number each are ranked by their numbers. -/
theorem ranked_eq_ok (hkeys : (slots.map key).Nodup) {ranking : List Slot}
    (hperm : ranking.Perm slots) (hstrict : ranking.Pairwise (·.index < ·.index)) :
    ranked slots = .ok (ranking.map kind) := by
  have hprecedes : ranking.Pairwise Precedes := hstrict.imp .inl
  rw [ranked, ← eq_mergeSort hkeys hperm hprecedes]
  rcases firstClash?_cases hprecedes with ⟨hnone, -⟩ | ⟨slot, -, hclash⟩
  · rw [hnone]
  · exact absurd hstrict (hclash.not_pairwise (List.Perm.refl ranking))

theorem ranked_eq_error_iff (hkeys : (slots.map key).Nodup) {e : ConfigError} :
    ranked slots = .error e ↔
      ∃ slot, Clash slots slot ∧ e = .invalid slot.key slot.kind.text .indexTaken := by
  rcases ranked_cases hkeys with ⟨ranking, hperm, hstrict, hranked⟩ | ⟨slot, hclash, hranked⟩
  · rw [hranked]
    exact ⟨nofun, fun ⟨slot, hclash, _⟩ => absurd hstrict (hclash.not_pairwise hperm)⟩
  · rw [hranked, Except.error.injEq]
    constructor
    · intro h
      exact ⟨slot, hclash, h.symm⟩
    · intro ⟨slot', hclash', he⟩
      rw [he, hclash.unique hkeys hclash']

end Encounter.Config.Slot
