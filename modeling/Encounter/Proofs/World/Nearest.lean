import Encounter.Proofs.World.Foremost
import Encounter.Proofs.World.Visibility
import Mathlib.Algebra.Order.Field.Rat
import Mathlib.Tactic.Linarith
import Mathlib.Tactic.Positivity

/-!
# The place of the nearest creature

A search by rank finds one place in the list: the one with the least rank, among those the least
distance in the total order, and among those the earliest.  On distances that are numbers the total
order is the order of the numbers, with a negative zero before a positive one.
-/

namespace Encounter

/-! ## The numbers that distances stand for -/

namespace Distance

/-- The number of a magnitude, as a multiple of the least positive one.  Magnitudes without an
exponent are that multiple; the others have a leading one in front of the fraction. -/
def steps (magnitude : ℕ) : ℕ :=
  if magnitude / exponentUnit = 0 then magnitude
  else (exponentUnit + magnitude % exponentUnit) * 2 ^ (magnitude / exponentUnit - 1)

/-- The number that a finite distance stands for. -/
def value (d : Distance) : ℚ :=
  if d.isNegative then -(steps d.magnitude / 2 ^ 149) else steps d.magnitude / 2 ^ 149

theorem steps_of_small {magnitude : ℕ} (h : magnitude / 0x800000 = 0) :
    steps magnitude = magnitude :=
  if_pos h

theorem steps_of_exponent {magnitude : ℕ} (exponent : ℕ)
    (h : magnitude / 0x800000 = exponent + 1) :
    steps magnitude = (0x800000 + magnitude % 0x800000) * 2 ^ exponent := by
  have hne : ¬ magnitude / exponentUnit = 0 := by
    rw [exponentUnit, h]
    exact Nat.succ_ne_zero exponent
  rw [steps, if_neg hne, exponentUnit, h, Nat.add_sub_cancel]

theorem steps_lt_succ (magnitude : ℕ) : steps magnitude < steps (magnitude + 1) := by
  obtain ⟨fraction, hfraction⟩ : ∃ fraction, magnitude % 0x800000 = fraction := ⟨_, rfl⟩
  have hlt : fraction < 0x800000 := hfraction ▸ Nat.mod_lt _ (by decide)
  by_cases hfull : fraction = 0x7FFFFF
  · -- The next magnitude has the next exponent and no fraction.
    have hnext : (magnitude + 1) % 0x800000 = 0 := by omega
    cases hexponent : magnitude / 0x800000 with
    | zero =>
        rw [steps_of_small hexponent, steps_of_exponent 0 (by omega), hnext]
        omega
    | succ exponent =>
        have hpow : 0 < 2 ^ exponent := Nat.two_pow_pos exponent
        rw [steps_of_exponent exponent hexponent, steps_of_exponent (exponent + 1) (by omega),
          hnext, hfraction, hfull, Nat.pow_succ]
        omega
  · have hnext : (magnitude + 1) % 0x800000 = fraction + 1 := by omega
    cases hexponent : magnitude / 0x800000 with
    | zero =>
        rw [steps_of_small hexponent, steps_of_small (by omega)]
        omega
    | succ exponent =>
        rw [steps_of_exponent exponent hexponent, steps_of_exponent exponent (by omega),
          hnext, hfraction]
        exact Nat.mul_lt_mul_of_pos_right (by omega) (Nat.two_pow_pos exponent)

theorem steps_lt_steps_iff {m n : ℕ} : steps m < steps n ↔ m < n :=
  (strictMono_nat_of_lt_succ steps_lt_succ).lt_iff_lt

theorem value_of_negative {d : Distance} (h : d.isNegative = true) :
    d.value = -(steps d.magnitude / 2 ^ 149) :=
  if_pos h

theorem value_of_positive {d : Distance} (h : d.isNegative = false) :
    d.value = steps d.magnitude / 2 ^ 149 :=
  if_neg (by simp [h])

theorem rank_of_negative {d : Distance} (h : d.isNegative = true) :
    d.rank = -(d.magnitude : ℤ) - 1 :=
  if_pos h

theorem rank_of_positive {d : Distance} (h : d.isNegative = false) : d.rank = d.magnitude :=
  if_neg (by simp [h])

theorem steps_div_lt_iff {m n : ℕ} :
    (steps m / 2 ^ 149 : ℚ) < steps n / 2 ^ 149 ↔ m < n := by
  rw [div_lt_div_iff_of_pos_right (by positivity), Nat.cast_lt, steps_lt_steps_iff]

example : (⟨0x3F800000⟩ : Distance).value = 1 := by decide +kernel

/-- The total order is that of the numbers, with a negative zero before a positive one. -/
theorem rank_lt_iff {d d' : Distance} :
    d.rank < d'.rank ↔
      d.value < d'.value ∨ d.value = d'.value ∧ d.isNegative = true ∧ d'.isNegative = false := by
  have hnonneg : ∀ m : ℕ, (0 : ℚ) ≤ steps m / 2 ^ 149 := fun m => by positivity
  cases hd : d.isNegative with
  | true =>
      cases hd' : d'.isNegative with
      | true =>
          rw [rank_of_negative hd, rank_of_negative hd', value_of_negative hd,
            value_of_negative hd', neg_lt_neg_iff, steps_div_lt_iff]
          simp
      | false =>
          have hle : d.value ≤ d'.value := by
            rw [value_of_negative hd, value_of_positive hd']
            linarith [hnonneg d.magnitude, hnonneg d'.magnitude]
          rw [rank_of_negative hd, rank_of_positive hd']
          simp only [and_self, and_true]
          constructor
          · intro _
            exact hle.lt_or_eq
          · intro _
            omega
  | false =>
      cases hd' : d'.isNegative with
      | true =>
          have hle : d'.value ≤ d.value := by
            rw [value_of_negative hd', value_of_positive hd]
            linarith [hnonneg d.magnitude, hnonneg d'.magnitude]
          rw [rank_of_positive hd, rank_of_negative hd']
          simp only [Bool.false_eq_true, false_and, and_false, or_false]
          constructor
          · intro hlt
            omega
          · intro hlt
            exact absurd hlt (not_lt.mpr hle)
      | false =>
          rw [rank_of_positive hd, rank_of_positive hd', value_of_positive hd,
            value_of_positive hd', steps_div_lt_iff]
          simp

end Distance

/-! ## Places in the list -/

/-- The rank of a creature, its distance in the total order and its place in the list. -/
def Creature.standing (kinds : List Kind) (place : ℕ) (c : Creature) : ℕ ×ₗ ℤ ×ₗ ℕ :=
  toLex (kinds.idxOf c.kind, toLex (c.distance.rank, place))

namespace Query

variable {creatures : List Creature} {kinds : List Kind} {accept : Creature → Bool}
variable {c other : Creature} {i j : ℕ}

/-- `c` stands at the place `i`, may be found, and has the least standing of all that may. -/
structure StandsFirst (creatures : List Creature) (kinds : List Kind) (accept : Creature → Bool)
    (i : ℕ) (c : Creature) : Prop where
  stands : creatures[i]? = some c
  eligible : c.isEligible kinds accept = true
  least : ∀ (j : ℕ) (other : Creature), creatures[j]? = some other →
    other.isEligible kinds accept = true → c.standing kinds i ≤ other.standing kinds j

theorem standing_le_iff :
    c.standing kinds i ≤ other.standing kinds j ↔
      c.precedence kinds < other.precedence kinds ∨
        c.precedence kinds = other.precedence kinds ∧ i ≤ j := by
  simp only [Creature.standing, Creature.precedence, Prod.Lex.toLex_le_toLex,
    Prod.Lex.toLex_lt_toLex, toLex_inj, Prod.mk.injEq]
  omega

theorem StandsFirst.precedence_le (h : StandsFirst creatures kinds accept i c)
    (hother : other ∈ creatures) (hmay : other.isEligible kinds accept = true) :
    c.precedence kinds ≤ other.precedence kinds := by
  obtain ⟨j, hj⟩ := List.mem_iff_getElem?.mp hother
  rcases standing_le_iff.mp (h.least j other hj hmay) with hlt | ⟨heq, -⟩
  · exact hlt.le
  · exact heq.le

theorem StandsFirst.unique (h : StandsFirst creatures kinds accept i c)
    (h' : StandsFirst creatures kinds accept j other) : i = j := by
  have hle := standing_le_iff.mp (h.least j other h'.stands h'.eligible)
  have hle' := standing_le_iff.mp (h'.least i c h.stands h.eligible)
  rcases hle with hlt | ⟨heq, hij⟩
  · rcases hle' with hlt' | ⟨heq', -⟩
    · exact absurd hlt (lt_asymm hlt')
    · exact absurd heq' hlt.ne'
  · rcases hle' with hlt' | ⟨-, hji⟩
    · exact absurd heq hlt'.ne'
    · exact le_antisymm hij hji

/-- The first of the least among the eligible creatures stands first in the whole list. -/
theorem exists_standsFirst (h : foremost creatures kinds accept = some c) :
    ∃ i, StandsFirst creatures kinds accept i c := by
  obtain ⟨before, after, hsplit, hbefore, hafter⟩ := (minOn?_eq_some_iff_firstLeast _).mp h
  obtain ⟨front, rest, rfl, hfront, hrest⟩ := List.filter_eq_append_iff.mp hsplit
  obtain ⟨gap, back, rfl, hgap, heligible, hback⟩ := List.filter_eq_cons_iff.mp hrest
  have hlist : front ++ (gap ++ c :: back) = (front ++ gap) ++ c :: back := by simp
  rw [hlist]
  refine ⟨(front ++ gap).length, by simp, heligible,
    fun j other hother hmay => ?_⟩
  rw [standing_le_iff]
  by_cases hj : j < (front ++ gap).length
  · -- Whatever may be found in front of the place is in `before`.
    rw [List.getElem?_append_left hj] at hother
    rcases List.mem_append.mp (List.mem_of_getElem? hother) with hmem | hmem
    · exact .inl (hbefore other (hfront ▸ List.mem_filter.mpr ⟨hmem, hmay⟩))
    · exact absurd hmay (hgap other hmem)
  · rw [List.getElem?_append_right (not_lt.mp hj)] at hother
    have hle : c.precedence kinds ≤ other.precedence kinds := by
      rcases List.mem_cons.mp (List.mem_of_getElem? hother) with rfl | hmem
      · exact le_rfl
      · exact hafter other (hback ▸ List.mem_filter.mpr ⟨hmem, hmay⟩)
    rcases hle.lt_or_eq with hlt | heq
    · exact .inl hlt
    · exact .inr ⟨heq, not_lt.mp hj⟩

theorem foremost_eq_some_iff :
    foremost creatures kinds accept = some c ↔ ∃ i, StandsFirst creatures kinds accept i c := by
  constructor
  · exact exists_standsFirst
  · rintro ⟨i, h⟩
    cases hfind : foremost creatures kinds accept with
    | none =>
        have hnot := foremost_eq_none_iff.mp hfind c (List.mem_of_getElem? h.stands)
        rw [h.eligible] at hnot
        cases hnot
    | some other =>
        obtain ⟨j, hother⟩ := exists_standsFirst hfind
        have hsame := hother.stands
        rw [← h.unique hother, h.stands] at hsame
        exact hsame.symm

/-- A search by rank finds nothing if there is nothing to be found, and otherwise the creature whose
rank, distance and place come first.  No creature that may be found is of an earlier kind, and none
of the same kind is nearer. -/
theorem nearestWhere_standsFirst (creatures : List Creature) (kinds : List Kind)
    (accept : Creature → Bool) :
    (nearestWhere creatures kinds accept = none ↔
      ∀ c ∈ creatures, c.isEligible kinds accept = false) ∧
    ∀ c, (nearestWhere creatures kinds accept = some c ↔
        ∃ i, StandsFirst creatures kinds accept i c) ∧
      (nearestWhere creatures kinds accept = some c →
        ∀ other ∈ creatures, other.isEligible kinds accept = true →
          kinds.idxOf c.kind ≤ kinds.idxOf other.kind ∧
          (other.kind = c.kind → c.distance.value ≤ other.distance.value ∧
            (c.distance.value = other.distance.value → other.distance.isNegative = true →
              c.distance.isNegative = true))) := by
  rw [nearestWhere_eq_foremost]
  refine ⟨foremost_eq_none_iff, fun c => ⟨foremost_eq_some_iff, fun hfind other hother hmay => ?_⟩⟩
  obtain ⟨i, hfirst⟩ := foremost_eq_some_iff.mp hfind
  have hle := hfirst.precedence_le hother hmay
  simp only [Creature.precedence, Prod.Lex.toLex_le_toLex] at hle
  refine ⟨by omega, fun hkind => ?_⟩
  have hrank : ¬ other.distance.rank < c.distance.rank := by
    rw [hkind] at hle
    omega
  rw [Distance.rank_lt_iff, not_or] at hrank
  refine ⟨not_lt.mp hrank.1, fun hvalue hnegative => ?_⟩
  by_contra hpositive
  exact hrank.2 ⟨hvalue.symm, hnegative, by simpa using hpositive⟩

/-- A negative zero is nearer than a positive one, wherever the two stand. -/
example :
    let zero : Creature := { guid := ⟨1⟩, kind := ⟨200⟩, distance := ⟨0⟩ }
    let negativeZero : Creature := { guid := ⟨2⟩, kind := ⟨200⟩, distance := ⟨0x80000000⟩ }
    nearest [zero, negativeZero] [⟨200⟩] = some negativeZero := by
  decide

end Query

end Encounter
