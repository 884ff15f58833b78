import Encounter.Proofs.World.Nearest

/-!
# Creatures in the order in which they are found

All creatures that a search by rank may find can be arranged by rank, distance and place.  No two
stand at one place, so there is one such order, and every narrower search finds the first in it
that the search still keeps.
-/

namespace Encounter.Query

variable {creatures : List Creature} {kinds : List Kind} {accept : Creature → Bool}
variable {order : List (Creature × ℕ)}

/-- `order` are the creatures that may be found, with their places, by rank, distance and place. -/
structure Arranges (creatures : List Creature) (kinds : List Kind) (accept : Creature → Bool)
    (order : List (Creature × ℕ)) : Prop where
  perm : order.Perm (creatures.zipIdx.filter (·.1.isEligible kinds accept))
  sorted : order.Pairwise fun p q => p.1.standing kinds p.2 < q.1.standing kinds q.2

theorem Arranges.mem_iff (h : Arranges creatures kinds accept order) {p : Creature × ℕ} :
    p ∈ order ↔ creatures[p.2]? = some p.1 ∧ p.1.isEligible kinds accept = true := by
  rw [h.perm.mem_iff, List.mem_filter, List.mem_zipIdx_iff_getElem?]

theorem Arranges.map_fst_perm (h : Arranges creatures kinds accept order) :
    (order.map Prod.fst).Perm (creatures.filter (·.isEligible kinds accept)) := by
  have hfilter : (creatures.zipIdx.filter (·.1.isEligible kinds accept)).map Prod.fst =
      creatures.filter (·.isEligible kinds accept) := by
    rw [← List.zipIdx_map_fst 0 creatures, List.filter_map, List.zipIdx_map_fst]
    rfl
  rw [← hfilter]
  exact h.perm.map Prod.fst

theorem exists_arranges (creatures : List Creature) (kinds : List Kind)
    (accept : Creature → Bool) : ∃ order, Arranges creatures kinds accept order := by
  let found := creatures.zipIdx.filter (·.1.isEligible kinds accept)
  let le : Creature × ℕ → Creature × ℕ → Bool :=
    fun p q => p.1.standing kinds p.2 ≤ q.1.standing kinds q.2
  have hperm : (found.mergeSort le).Perm found := List.mergeSort_perm found le
  have hle : (found.mergeSort le).Pairwise fun p q => le p q = true := by
    apply List.pairwise_mergeSort
    · intro p q r hpq hqr
      exact decide_eq_true ((of_decide_eq_true hpq).trans (of_decide_eq_true hqr))
    · intro p q
      simpa [le] using le_total (p.1.standing kinds p.2) (q.1.standing kinds q.2)
  -- The sort leaves ties as they come, but no two of them stand at one place.
  have hplaces : (found.map Prod.snd).Nodup := by
    have hall : (creatures.zipIdx.map Prod.snd).Nodup := by
      rw [List.zipIdx_map_snd]
      exact List.nodup_range'
    exact hall.sublist (List.filter_sublist.map Prod.snd)
  have hne : (found.mergeSort le).Pairwise fun p q => p.2 ≠ q.2 :=
    List.pairwise_map.mp ((hperm.map Prod.snd).nodup_iff.mpr hplaces)
  refine ⟨found.mergeSort le, hperm, hle.imp₂ ?_ hne⟩
  intro p q hpq hplace
  apply lt_of_le_of_ne (of_decide_eq_true hpq)
  intro hsame
  simp only [Creature.standing, toLex_inj, Prod.mk.injEq] at hsame
  exact hplace hsame.2.2

/-- A narrower search finds the first in the order that it keeps. -/
theorem Arranges.foremost_eq (h : Arranges creatures kinds accept order)
    (keep : Creature → Bool) :
    foremost creatures kinds (fun c => accept c && keep c) =
      (order.find? (keep ·.1)).map Prod.fst := by
  have hnarrow : ∀ c : Creature, c.isEligible kinds (fun c => accept c && keep c) =
      (c.isEligible kinds accept && keep c) := by
    intro c
    simp only [Creature.isEligible, Bool.and_assoc]
  cases hfind : order.find? (keep ·.1) with
  | none =>
      rw [Option.map_none, foremost_eq_none_iff]
      intro c hmem
      rw [hnarrow]
      by_contra hmay
      rw [Bool.not_eq_false, Bool.and_eq_true] at hmay
      obtain ⟨place, hplace⟩ := List.mem_iff_getElem?.mp hmem
      have hnot := List.find?_eq_none.mp hfind (c, place) (h.mem_iff.mpr ⟨hplace, hmay.1⟩)
      exact hnot hmay.2
  | some p =>
      obtain ⟨hkeep, before, after, horder, hbefore⟩ := List.find?_eq_some_iff_append.mp hfind
      have hp := h.mem_iff.mp (List.mem_of_find?_eq_some hfind)
      rw [Option.map_some, foremost_eq_some_iff]
      refine ⟨p.2, hp.1, ?_, ?_⟩
      · rw [hnarrow, hp.2, hkeep]
        rfl
      · intro place other hplace hmay
        rw [hnarrow, Bool.and_eq_true] at hmay
        have hmem : (other, place) ∈ order := h.mem_iff.mpr ⟨hplace, hmay.1⟩
        rw [horder] at hmem
        -- Whoever stands before `p` is not kept; whoever stands behind it is not preferred to it.
        rcases List.mem_append.mp hmem with hmem | hmem
        · have hnot := hbefore (other, place) hmem
          simp [hmay.2] at hnot
        · have hsorted := horder ▸ h.sorted
          rcases List.mem_cons.mp hmem with rfl | hmem
          · exact le_rfl
          · exact ((List.pairwise_cons.mp (List.pairwise_append.mp hsorted).2.1).1 _ hmem).le

end Encounter.Query
