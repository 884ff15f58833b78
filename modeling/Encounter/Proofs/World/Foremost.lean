import Encounter.World.Query
import Mathlib.Data.Prod.Lex
import Mathlib.Data.List.Basic

/-!
# Rank before distance

A search by rank goes through the kinds one after the other and takes the nearest creature of the
first kind that has any.  This module compares it with one flat minimum: among all eligible
creatures, the first of those whose pair of rank and distance is least.
-/

namespace Encounter

/-! ## The first of the least elements of a list -/

section FirstLeast

variable {α β γ : Type} [LinearOrder β] [LinearOrder γ]

/-- `m` stands in `l` where nothing before it has a key as small and nothing after it a smaller
one. -/
def FirstLeast (key : α → β) (l : List α) (m : α) : Prop :=
  ∃ before after, l = before ++ m :: after ∧
    (∀ a ∈ before, key m < key a) ∧ ∀ a ∈ after, key m ≤ key a

theorem FirstLeast.mem {key : α → β} {l : List α} {m : α} (h : FirstLeast key l m) : m ∈ l := by
  obtain ⟨before, after, rfl, -, -⟩ := h
  simp

theorem FirstLeast.le {key : α → β} {l : List α} {m a : α} (h : FirstLeast key l m)
    (ha : a ∈ l) : key m ≤ key a := by
  obtain ⟨before, after, rfl, hbefore, hafter⟩ := h
  rcases List.mem_append.mp ha with ha | ha
  · exact (hbefore a ha).le
  · rcases List.mem_cons.mp ha with rfl | ha
    · exact le_rfl
    · exact hafter a ha

theorem firstLeast_cons_of_forall_le {key : α → β} {l : List α} {a : α}
    (h : ∀ x ∈ l, key a ≤ key x) : FirstLeast key (a :: l) a :=
  ⟨[], l, rfl, by simp, h⟩

theorem FirstLeast.cons_of_lt {key : α → β} {l : List α} {a m : α}
    (h : FirstLeast key l m) (hlt : key m < key a) : FirstLeast key (a :: l) m := by
  obtain ⟨before, after, rfl, hbefore, hafter⟩ := h
  refine ⟨a :: before, after, rfl, ?_, hafter⟩
  intro x hx
  rcases List.mem_cons.mp hx with rfl | hx
  · exact hlt
  · exact hbefore x hx

theorem FirstLeast.unique {key : α → β} {l : List α} {m m' : α}
    (h : FirstLeast key l m) (h' : FirstLeast key l m') : m = m' := by
  obtain ⟨before, after, hl, hbefore, hafter⟩ := h
  obtain ⟨before', after', hl', hbefore', hafter'⟩ := h'
  have hle : key m ≤ key m' := by
    exact FirstLeast.le ⟨before, after, hl, hbefore, hafter⟩ (by simp [hl'])
  have hle' : key m' ≤ key m := by
    exact FirstLeast.le ⟨before', after', hl', hbefore', hafter'⟩ (by simp [hl])
  -- Of two different places the earlier one has the smaller key, against the other's being least.
  rcases List.append_eq_append_iff.mp (hl.symm.trans hl') with
    ⟨between, hbetween, hrest⟩ | ⟨between, hbetween, hrest⟩
  · cases between with
    | nil => exact (List.cons.inj hrest).1
    | cons x rest =>
        obtain rfl : m = x := (List.cons.inj hrest).1
        have hlt := hbefore' m (by simp [hbetween])
        exact absurd hlt (not_lt.mpr hle)
  · cases between with
    | nil => exact (List.cons.inj hrest).1.symm
    | cons x rest =>
        obtain rfl : m' = x := (List.cons.inj hrest).1
        have hlt := hbefore m' (by simp [hbetween])
        exact absurd hlt (not_lt.mpr hle')

theorem firstLeast_of_minOn?_eq_some (key : α → β) {l : List α} {m : α}
    (h : l.minOn? key = some m) : FirstLeast key l m := by
  induction l generalizing m with
  | nil => simp at h
  | cons a l ih =>
      rw [List.minOn?_cons, Option.some.injEq] at h
      cases hrest : l.minOn? key with
      | none =>
          have hnil : l = [] := by
            by_contra hne
            have := List.isSome_minOn?_iff (f := key).mpr hne
            simp [hrest] at this
          subst hnil
          obtain rfl : a = m := by simpa using h
          exact firstLeast_cons_of_forall_le (by simp)
      | some x =>
          have hx := ih hrest
          rw [hrest, Option.elim_some] at h
          by_cases hle : key a ≤ key x
          · rw [minOn_eq_left hle] at h
            subst h
            exact firstLeast_cons_of_forall_le fun y hy => hle.trans (hx.le hy)
          · rw [minOn_eq_right hle] at h
            subst h
            exact hx.cons_of_lt (not_le.mp hle)

theorem minOn?_eq_some_iff_firstLeast (key : α → β) {l : List α} {m : α} :
    l.minOn? key = some m ↔ FirstLeast key l m := by
  constructor
  · exact firstLeast_of_minOn?_eq_some key
  · intro h
    obtain ⟨x, hx⟩ := Option.isSome_iff_exists.mp
      (List.isSome_minOn?_iff (f := key).mpr (List.ne_nil_of_mem h.mem))
    rw [hx, (firstLeast_of_minOn?_eq_some key hx).unique h]

/-- A part of a list that holds every element with a small key holds the first of the least. -/
theorem FirstLeast.of_filter {key : α → β} {p : α → Bool} {l : List α} {m : α}
    (h : FirstLeast key (l.filter p) m)
    (hrest : ∀ a ∈ l, p a = false → key m < key a) : FirstLeast key l m := by
  obtain ⟨before, after, hsplit, hbefore, hafter⟩ := h
  obtain ⟨front, back, rfl, hfront, hback⟩ := List.filter_eq_append_iff.mp hsplit
  obtain ⟨gap, back, rfl, hgap, -, hback⟩ := List.filter_eq_cons_iff.mp hback
  refine ⟨front ++ gap, back, by simp, ?_, ?_⟩
  · intro a ha
    by_cases hpa : p a = true
    · rcases List.mem_append.mp ha with ha | ha
      · exact hbefore a (hfront ▸ List.mem_filter.mpr ⟨ha, hpa⟩)
      · exact absurd hpa (hgap a ha)
    · apply hrest a _ (by simpa using hpa)
      rcases List.mem_append.mp ha with ha | ha <;> simp [ha]
  · intro a ha
    by_cases hpa : p a = true
    · exact hafter a (hback ▸ List.mem_filter.mpr ⟨ha, hpa⟩)
    · exact (hrest a (by simp [ha]) (by simpa using hpa)).le

theorem FirstLeast.of_key {key : α → β} {key' : α → γ} {l : List α} {m : α}
    (h : FirstLeast key l m)
    (hkey : ∀ a ∈ l, ∀ b ∈ l, key a < key b ↔ key' a < key' b) : FirstLeast key' l m := by
  have hm := h.mem
  obtain ⟨before, after, rfl, hbefore, hafter⟩ := h
  refine ⟨before, after, rfl, ?_, ?_⟩
  · intro a ha
    exact (hkey m hm a (by simp [ha])).mp (hbefore a ha)
  · intro a ha
    have hlt := (hkey a (by simp [ha]) m hm).not.mp (not_lt.mpr (hafter a ha))
    exact not_lt.mp hlt

theorem minOn?_congr_key {key : α → β} {key' : α → γ} {l : List α}
    (hkey : ∀ a ∈ l, ∀ b ∈ l, key a < key b ↔ key' a < key' b) :
    l.minOn? key = l.minOn? key' := by
  ext m
  rw [minOn?_eq_some_iff_firstLeast, minOn?_eq_some_iff_firstLeast]
  constructor
  · intro h
    exact h.of_key hkey
  · intro h
    exact h.of_key fun a ha b hb => (hkey a ha b hb).symm

theorem FirstLeast.of_perm {key : α → β} {l l' : List α} {m : α} (h : FirstLeast key l m)
    (hperm : l'.Perm l) (hkeys : l'.Pairwise fun a b => key a ≠ key b) : FirstLeast key l' m := by
  obtain ⟨before, after, rfl⟩ := List.append_of_mem (hperm.mem_iff.mpr h.mem)
  have hle : ∀ a ∈ before ++ m :: after, key m ≤ key a := fun a ha => h.le (hperm.mem_iff.mp ha)
  refine ⟨before, after, rfl, ?_, ?_⟩
  · intro a ha
    have hne : key a ≠ key m := (List.pairwise_append.mp hkeys).2.2 a ha m List.mem_cons_self
    exact lt_of_le_of_ne (hle a (List.mem_append_left _ ha)) hne.symm
  · intro a ha
    exact hle a (List.mem_append_right _ (List.mem_cons_of_mem _ ha))

/-- With keys that all differ, a list in another order has the same least element. -/
theorem minOn?_eq_of_perm {key : α → β} {l l' : List α} (hperm : l'.Perm l)
    (hkeys : l'.Pairwise fun a b => key a ≠ key b) : l'.minOn? key = l.minOn? key := by
  cases hleast : l.minOn? key with
  | none =>
      have hnil : l = [] := by
        by_contra hne
        simpa [hleast] using List.isSome_minOn?_iff (f := key).mpr hne
      rw [hnil] at hperm
      rw [hperm.eq_nil, List.minOn?_nil]
  | some m =>
      rw [minOn?_eq_some_iff_firstLeast] at hleast ⊢
      exact hleast.of_perm hperm hkeys

end FirstLeast

/-! ## The flat search -/

def Creature.isEligible (kinds : List Kind) (accept : Creature → Bool) (c : Creature) : Bool :=
  kinds.contains c.kind && c.alive && c.distance.isFinite && accept c

def Creature.precedence (kinds : List Kind) (c : Creature) : ℕ ×ₗ ℤ :=
  toLex (kinds.idxOf c.kind, c.distance.rank)

def Query.foremost (creatures : List Creature) (kinds : List Kind) (accept : Creature → Bool) :
    Option Creature :=
  (creatures.filter (·.isEligible kinds accept)).minOn? (·.precedence kinds)

namespace Query

variable {creatures : List Creature} {kinds : List Kind} {kind : Kind}
variable {accept : Creature → Bool} {c : Creature}

theorem isEligible_of_foremost (h : foremost creatures kinds accept = some c) :
    c ∈ creatures ∧ c.isEligible kinds accept = true := by
  have hmem := ((minOn?_eq_some_iff_firstLeast _).mp h).mem
  exact List.mem_filter.mp hmem

theorem foremost_eq_none_iff :
    foremost creatures kinds accept = none ↔
      ∀ c ∈ creatures, c.isEligible kinds accept = false := by
  rw [foremost, ← Option.not_isSome_iff_eq_none, List.isSome_minOn?_iff, not_not,
    List.filter_eq_nil_iff]
  simp

theorem isEligible_cons (kind : Kind) (kinds : List Kind) (accept : Creature → Bool)
    (c : Creature) :
    c.isEligible (kind :: kinds) accept =
      (c.isCandidate kind accept || c.isEligible kinds accept) := by
  by_cases hkind : c.kind = kind
  · simp only [Creature.isEligible, Creature.isCandidate, hkind, List.contains_cons,
      beq_self_eq_true, Bool.true_or, Bool.true_and, Bool.and_assoc]
    rw [Bool.or_comm, Bool.or_eq_right_iff_imp.mpr]
    simp
  · simp [Creature.isEligible, Creature.isCandidate, hkind]

theorem kind_eq_of_isCandidate (h : c.isCandidate kind accept = true) : c.kind = kind := by
  simp only [Creature.isCandidate, Bool.and_eq_true, beq_iff_eq] at h
  exact h.1.1.1

theorem isCandidate_of_isEligible (h : c.isEligible kinds accept = true) (hkind : c.kind = kind) :
    c.isCandidate kind accept = true := by
  simp only [Creature.isEligible, Creature.isCandidate, Bool.and_eq_true, beq_iff_eq] at h ⊢
  exact ⟨⟨⟨hkind, h.1.1.2⟩, h.1.2⟩, h.2⟩

theorem foremost_cons_of_candidate (h : nearestOfKind creatures accept kind = some c) :
    foremost creatures (kind :: kinds) accept = some c := by
  have hleast : FirstLeast (·.distance.rank)
      (creatures.filter (·.isCandidate kind accept)) c :=
    (minOn?_eq_some_iff_firstLeast _).mp h
  have hkind : ∀ a ∈ creatures.filter (·.isCandidate kind accept), a.kind = kind :=
    fun a ha => kind_eq_of_isCandidate (List.mem_filter.mp ha).2
  have hprecedence : FirstLeast (·.precedence (kind :: kinds))
      (creatures.filter (·.isCandidate kind accept)) c := by
    apply hleast.of_key
    intro a ha b hb
    simp [Creature.precedence, Prod.Lex.toLex_lt_toLex, hkind a ha, hkind b hb]
  -- The candidates are the part of the eligible creatures that rank first.
  have hfilter : creatures.filter (·.isCandidate kind accept) =
      (creatures.filter (·.isEligible (kind :: kinds) accept)).filter
        (·.isCandidate kind accept) := by
    rw [List.filter_filter]
    apply List.filter_congr
    intro a _
    rw [isEligible_cons]
    cases a.isCandidate kind accept <;> rfl
  rw [hfilter] at hprecedence
  apply (minOn?_eq_some_iff_firstLeast _).mpr
  apply hprecedence.of_filter
  intro a ha hcandidate
  have hother : a.kind ≠ kind := by
    intro hkind
    have hcandidate' := isCandidate_of_isEligible (List.mem_filter.mp ha).2 hkind
    simp [hcandidate] at hcandidate'
  have hc := hkind c hleast.mem
  simp [Creature.precedence, Prod.Lex.toLex_lt_toLex, hc, List.idxOf_cons_ne _ hother.symm]

theorem foremost_cons_of_no_candidate (h : nearestOfKind creatures accept kind = none) :
    foremost creatures (kind :: kinds) accept = foremost creatures kinds accept := by
  have hnone : ∀ a ∈ creatures, a.isCandidate kind accept = false := by
    intro a ha
    by_contra hcandidate
    have hmem : a ∈ creatures.filter (·.isCandidate kind accept) :=
      List.mem_filter.mpr ⟨ha, by simpa using hcandidate⟩
    have hsome : (nearestOfKind creatures accept kind).isSome = true :=
      List.isSome_minOn?_of_mem hmem
    simp [h] at hsome
  have hfilter : creatures.filter (·.isEligible (kind :: kinds) accept) =
      creatures.filter (·.isEligible kinds accept) := by
    apply List.filter_congr
    intro a ha
    rw [isEligible_cons, hnone a ha, Bool.false_or]
  have hkind : ∀ a ∈ creatures.filter (·.isEligible kinds accept), kind ≠ a.kind := by
    intro a ha hkind
    obtain ⟨hmem, heligible⟩ := List.mem_filter.mp ha
    have hcandidate := isCandidate_of_isEligible heligible hkind.symm
    simp [hnone a hmem] at hcandidate
  unfold foremost
  rw [hfilter]
  apply minOn?_congr_key
  intro a ha b hb
  simp [Creature.precedence, Prod.Lex.toLex_lt_toLex, List.idxOf_cons_ne _ (hkind a ha),
    List.idxOf_cons_ne _ (hkind b hb)]

/-- The search by rank and the flat search find the same creature. -/
theorem nearestWhere_eq_foremost (creatures : List Creature) (kinds : List Kind)
    (accept : Creature → Bool) :
    nearestWhere creatures kinds accept = foremost creatures kinds accept := by
  induction kinds with
  | nil => simp [nearestWhere, foremost, Creature.isEligible]
  | cons kind kinds ih =>
      unfold nearestWhere at ih ⊢
      rw [List.findSome?_cons]
      cases h : nearestOfKind creatures accept kind with
      | some c => exact (foremost_cons_of_candidate h).symm
      | none =>
          rw [foremost_cons_of_no_candidate h]
          exact ih

end Query

end Encounter
