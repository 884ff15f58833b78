import Encounter.Policy.Sightings
import Encounter.Proofs.World.Foremost
import Mathlib.Data.List.Nodup

/-!
# Worlds that show the same

A tick takes no more from a world than its clock and its sightings, and every sighting is the first
or the nearest of the creatures that pass some test.  So creatures that pass none of the tests may
be missing, and where no test leaves a choice the creatures may be listed in any order.
-/

namespace Encounter

/-! ## Lists with elements missing -/

/-- The second list is the first without some of the elements that are `spare`. -/
inductive Thinned {α : Type} (spare : α → Prop) : List α → List α → Prop
  | nil : Thinned spare [] []
  | keep (a : α) {l l' : List α} (h : Thinned spare l l') : Thinned spare (a :: l) (a :: l')
  | drop {a : α} (ha : spare a) {l l' : List α} (h : Thinned spare l l') : Thinned spare (a :: l) l'

section Lists

variable {α : Type} {spare : α → Prop} {l l' : List α} {p : α → Bool}

theorem Thinned.mem_of_mem (h : Thinned spare l l') {a : α} (ha : a ∈ l') : a ∈ l := by
  induction h with
  | nil => exact ha
  | keep b _ ih =>
      rcases List.mem_cons.mp ha with rfl | ha
      · exact List.mem_cons_self
      · exact List.mem_cons_of_mem _ (ih ha)
  | drop _ _ ih => exact List.mem_cons_of_mem _ (ih ha)

theorem Thinned.filter_eq (h : Thinned spare l l') (hp : ∀ a, spare a → p a = false) :
    l'.filter p = l.filter p := by
  induction h with
  | nil => rfl
  | keep a _ ih => rw [List.filter_cons, List.filter_cons, ih]
  | drop ha _ ih => rw [ih, List.filter_cons_of_neg (by simp [hp _ ha])]

theorem Thinned.find?_eq (h : Thinned spare l l') (hp : ∀ a, spare a → p a = false) :
    l'.find? p = l.find? p := by
  rw [← List.head?_filter, ← List.head?_filter, h.filter_eq hp]

theorem find?_eq_of_perm (hperm : l'.Perm l) (hone : l.countP p ≤ 1) :
    l'.find? p = l.find? p := by
  have hfilter : (l'.filter p).Perm (l.filter p) := hperm.filter p
  rw [List.countP_eq_length_filter] at hone
  rw [← List.head?_filter, ← List.head?_filter]
  match l.filter p, hone, hfilter with
  | [], _, hfilter => rw [hfilter.eq_nil]
  | [a], _, hfilter => rw [List.perm_singleton.mp hfilter]

theorem findSome?_congr_mem {β : Type} {f g : α → Option β} (h : ∀ a ∈ l, f a = g a) :
    l.findSome? f = l.findSome? g := by
  induction l with
  | nil => rfl
  | cons a l ih =>
      rw [List.findSome?_cons, List.findSome?_cons, h a List.mem_cons_self,
        ih fun b hb => h b (List.mem_cons_of_mem a hb)]

end Lists

theorem Distance.rank_injective {d d' : Distance} (h : d.rank = d'.rank) : d = d' := by
  have hlt : d.bits.toNat < 2 ^ 32 := d.bits.toNat_lt
  have hlt' : d'.bits.toNat < 2 ^ 32 := d'.bits.toNat_lt
  have hbits : d.bits.toNat = d'.bits.toNat := by
    simp only [rank, isNegative, magnitude, decide_eq_true_eq] at h
    split at h <;> split at h <;> simp only [signPattern] at * <;> omega
  obtain ⟨bits⟩ := d
  obtain ⟨bits'⟩ := d'
  exact congrArg Distance.mk (UInt32.toNat_inj.mp hbits)

/-! ## What a configuration sees of a world -/

/-- To a configuration, `w'` shows what `w` shows. -/
structure World.ShowsAs (config : Config) (w w' : World) : Prop where
  now_eq : w'.now = w.now
  boss_eq : Query.firstOfKind w'.creatures config.boss = Query.firstOfKind w.creatures config.boss
  target_eq :
    w'.target.bind (Query.withGuid w'.creatures) = w.target.bind (Query.withGuid w.creatures)
  nearest_eq : ∀ kind, kind ∈ config.killOrder ∨ kind ∈ config.blacklist → ∀ accept,
    Query.nearestOfKind w'.creatures accept kind = Query.nearestOfKind w.creatures accept kind

theorem Sightings.observe_eq {config : Config} {w w' : World} (h : w.ShowsAs config w')
    (exclusions : Exclusions) :
    observe config w' exclusions w'.now = observe config w exclusions w.now := by
  have hkillOrder : ∀ accept, Query.nearestWhere w'.creatures config.killOrder accept =
      Query.nearestWhere w.creatures config.killOrder accept :=
    fun accept => findSome?_congr_mem fun kind hkind => h.nearest_eq kind (.inl hkind) accept
  have hblacklist : ∀ accept, Query.nearestWhere w'.creatures config.blacklist accept =
      Query.nearestWhere w.creatures config.blacklist accept :=
    fun accept => findSome?_congr_mem fun kind hkind => h.nearest_eq kind (.inr hkind) accept
  simp only [observe, Query.nearest, h.now_eq, h.boss_eq, h.target_eq, hkillOrder, hblacklist]

/-! ## Creatures that may be missing -/

/-- Neither of the boss's kind nor targeted by the player, and not to be found by rank either. -/
structure Creature.Irrelevant (config : Config) (target : Option Guid) (c : Creature) : Prop where
  not_boss : c.kind ≠ config.boss
  not_target : target ≠ some c.guid
  not_ranked : (c.kind ∉ config.killOrder ∧ c.kind ∉ config.blacklist) ∨ c.alive = false ∨
    c.distance.isFinite = false

theorem Creature.Irrelevant.not_isCandidate {config : Config} {target : Option Guid} {c : Creature}
    (h : c.Irrelevant config target) {kind : Kind}
    (hkind : kind ∈ config.killOrder ∨ kind ∈ config.blacklist) (accept : Creature → Bool) :
    c.isCandidate kind accept = false := by
  rcases h.not_ranked with ⟨hkillOrder, hblacklist⟩ | hdead | hfar
  · have hne : c.kind ≠ kind := by
      rintro rfl
      exact hkind.elim hkillOrder hblacklist
    simp [isCandidate, hne]
  · simp [isCandidate, hdead]
  · simp [isCandidate, hfar]

theorem World.showsAs_of_thinned {config : Config} {w : World} {creatures : List Creature}
    (h : Thinned (Creature.Irrelevant config w.target) w.creatures creatures) :
    w.ShowsAs config { w with creatures } where
  now_eq := rfl
  boss_eq := h.find?_eq fun c hc => beq_eq_false_iff_ne.mpr hc.not_boss
  target_eq := by
    cases htarget : w.target with
    | none => rfl
    | some guid =>
        refine h.find?_eq fun c hc => beq_eq_false_iff_ne.mpr ?_
        rintro rfl
        exact hc.not_target htarget
  nearest_eq kind hkind accept := by
    have hfilter := h.filter_eq fun c hc => hc.not_isCandidate hkind accept
    rw [Query.nearestOfKind, Query.nearestOfKind, hfilter]

/-! ## Creatures in another order -/

/-- No identity is on the list twice, no second creature is of the boss's kind, and no two living
creatures of one kind are at the same finite distance. -/
structure World.Unambiguous (boss : Kind) (w : World) : Prop where
  nodup_guids : (w.creatures.map Creature.guid).Nodup
  boss_le_one : w.creatures.countP (·.kind == boss) ≤ 1
  distances_ne : w.creatures.Pairwise fun a b => a.alive = true → b.alive = true →
    a.distance.isFinite = true → b.distance.isFinite = true → a.kind = b.kind →
      a.distance ≠ b.distance

theorem World.Unambiguous.pairwise_rank_ne {boss : Kind} {w : World} (h : w.Unambiguous boss)
    (kind : Kind) (accept : Creature → Bool) :
    (w.creatures.filter (·.isCandidate kind accept)).Pairwise fun a b =>
      a.distance.rank ≠ b.distance.rank := by
  rw [List.pairwise_filter]
  refine h.distances_ne.imp fun {a b} hne ha hb hrank => ?_
  simp only [Creature.isCandidate, Bool.and_eq_true, beq_iff_eq] at ha hb
  exact hne ha.1.1.2 hb.1.1.2 ha.1.2 hb.1.2 (ha.1.1.1.trans hb.1.1.1.symm)
    (Distance.rank_injective hrank)

theorem World.Unambiguous.showsAs {config : Config} {w : World} (h : w.Unambiguous config.boss)
    {creatures : List Creature} (hperm : creatures.Perm w.creatures) :
    w.ShowsAs config { w with creatures } where
  now_eq := rfl
  boss_eq := find?_eq_of_perm hperm h.boss_le_one
  target_eq := by
    cases w.target with
    | none => rfl
    | some guid =>
        refine find?_eq_of_perm hperm ?_
        have hcount := List.nodup_iff_count_le_one.mp h.nodup_guids guid
        rwa [List.count, List.countP_map] at hcount
  nearest_eq kind _ accept := by
    have hfilter := hperm.filter (·.isCandidate kind accept)
    have hranks := (hfilter.pairwise_iff fun hne => hne.symm).mpr (h.pairwise_rank_ne kind accept)
    exact minOn?_eq_of_perm hfilter hranks

end Encounter
