import Encounter.Proofs.Task.Chronicle
import Encounter.Proofs.World.Expiry
import Mathlib.Logic.Function.Basic

/-!
# The routine's copy of the exclusions

The combat routine is told of every exclusion and of every flush, but never of what the task drops
while it adds.  A routine that writes down the last expiry it was told for each identity holds
everything that the task holds, and beyond that only what has lapsed: entries that were expired at
the reading of some later exclusion.  At readings that no exclusion has run ahead of since the last
flush, the two therefore exclude the same identities.
-/

namespace Encounter

variable {ε : Type}

namespace CombatCall

/-- What becomes of a copy of the exclusions when its keeper hears of a call. -/
def note (copy : Guid → Option Timestamp) : CombatCall → Guid → Option Timestamp
  | .exclude guid expiry => Function.update copy guid (some expiry)
  | .flush => fun _ => none
  | .target _ _ | .perform _ _ => copy

def replay (calls : List CombatCall) : Guid → Option Timestamp :=
  calls.foldl note fun _ => none

theorem foldl_note_of_forall {calls : List CombatCall}
    (h : ∀ call ∈ calls, call.changesExclusions = false) (copy : Guid → Option Timestamp) :
    calls.foldl note copy = copy := by
  induction calls generalizing copy with
  | nil => rfl
  | cons call rest ih =>
      have hcall : note copy call = copy := by
        have hneutral := h call List.mem_cons_self
        cases call <;> simp_all [changesExclusions, note]
      rw [List.foldl_cons, hcall]
      exact ih (fun later hlater => h later (List.mem_cons_of_mem _ hlater)) copy

theorem replay_append (first second : List CombatCall) :
    replay (first ++ second) = second.foldl note (replay first) := by
  simp [replay]

end CombatCall

namespace Ruling

/-- Neither flushes nor excludes `guid`. -/
def Spares (r : Ruling) (guid : Guid) : Prop :=
  .flush ∉ r.calls ∧ ∀ expiry, .exclude guid expiry ∉ r.calls

/-- The routine was told to exclude `guid` until `expiry`, and of nothing that changes this since;
`after` are the rulings made since. -/
def ToldBefore (rulings : List Ruling) (guid : Guid) (expiry : Timestamp)
    (after : List Ruling) : Prop :=
  ∃ before origin, rulings = before ++ origin :: after ∧ .exclude guid expiry ∈ origin.calls ∧
    ∀ later ∈ after, later.Spares guid

/-- The routine was told to exclude `guid` until `expiry`, and of nothing that changes this since,
but an exclusion was made since at a reading not before `expiry`. -/
def Lapsed (rulings : List Ruling) (guid : Guid) (expiry : Timestamp) : Prop :=
  ∃ after, ToldBefore rulings guid expiry after ∧
    ∃ pruner ∈ after, (∃ other, pruner.decision = some (.exclude other)) ∧ expiry ≤ pruner.now

variable {rulings after : List Ruling} {r : Ruling} {s : Exclusions}
variable {guid other : Guid} {expiry : Timestamp}

theorem spares_of_forall (h : ∀ call ∈ r.calls, call.changesExclusions = false) (guid : Guid) :
    r.Spares guid := by
  constructor
  · intro hmem
    simpa [CombatCall.changesExclusions] using h _ hmem
  · intro expiry hmem
    simpa [CombatCall.changesExclusions] using h _ hmem

theorem spares_of_ne {vain : List CombatCall}
    (hcalls : r.calls = vain ++ [.exclude other expiry])
    (hvain : ∀ call ∈ vain, call.changesExclusions = false) (hne : guid ≠ other) :
    r.Spares guid := by
  have hlast : ∀ call ∈ r.calls, call.changesExclusions = true → call = .exclude other expiry := by
    intro call hmem hchanges
    rw [hcalls] at hmem
    rcases List.mem_append.mp hmem with hmem | hmem
    · simp [hvain call hmem] at hchanges
    · exact List.mem_singleton.mp hmem
  constructor
  · intro hmem
    simpa using hlast _ hmem rfl
  · intro expiry' hmem
    have heq := hlast _ hmem rfl
    simp only [CombatCall.exclude.injEq] at heq
    exact hne heq.1

theorem ToldBefore.concat (h : ToldBefore rulings guid expiry after) (hr : r.Spares guid) :
    ToldBefore (rulings ++ [r]) guid expiry (after ++ [r]) := by
  obtain ⟨before, origin, rfl, horigin, hafter⟩ := h
  refine ⟨before, origin, by simp, horigin, fun later hlater => ?_⟩
  rcases List.mem_append.mp hlater with hlater | hlater
  · exact hafter later hlater
  · rw [List.mem_singleton.mp hlater]
    exact hr

theorem Lapsed.concat (h : Lapsed rulings guid expiry) (hr : r.Spares guid) :
    Lapsed (rulings ++ [r]) guid expiry := by
  obtain ⟨after, htold, pruner, hpruner, hlapsed⟩ := h
  exact ⟨_, htold.concat hr, pruner, List.mem_append_left _ hpruner, hlapsed⟩

/-- How the routine's copy after some rulings stands to the exclusions that they lead to. -/
structure Mirrors (rulings : List Ruling) (s : Exclusions) : Prop where
  stored : ∀ guid expiry, s.expiry? guid = some expiry →
    CombatCall.replay (rulings.flatMap calls) guid = some expiry
  told : ∀ guid expiry, CombatCall.replay (rulings.flatMap calls) guid = some expiry →
    ∃ after, ToldBefore rulings guid expiry after
  lapsed : ∀ guid expiry, CombatCall.replay (rulings.flatMap calls) guid = some expiry →
    s.expiry? guid ≠ some expiry → Lapsed rulings guid expiry

theorem mirrors_nil : Mirrors [] Exclusions.empty where
  stored guid expiry h := by simp at h
  told guid expiry h := by simp [CombatCall.replay] at h
  lapsed guid expiry h := by simp [CombatCall.replay] at h

theorem replay_concat (rulings : List Ruling) (r : Ruling) :
    CombatCall.replay ((rulings ++ [r]).flatMap calls) =
      r.calls.foldl CombatCall.note (CombatCall.replay (rulings.flatMap calls)) := by
  rw [List.flatMap_append, List.flatMap_singleton, CombatCall.replay_append]

theorem Mirrors.afterNeutral (h : Mirrors rulings s)
    (hcalls : ∀ call ∈ r.calls, call.changesExclusions = false) : Mirrors (rulings ++ [r]) s := by
  have hcopy : CombatCall.replay ((rulings ++ [r]).flatMap calls) =
      CombatCall.replay (rulings.flatMap calls) := by
    rw [replay_concat, CombatCall.foldl_note_of_forall hcalls]
  constructor
  · intro guid expiry hexpiry
    rw [hcopy]
    exact h.stored guid expiry hexpiry
  · intro guid expiry hexpiry
    rw [hcopy] at hexpiry
    obtain ⟨after, htold⟩ := h.told guid expiry hexpiry
    exact ⟨_, htold.concat (spares_of_forall hcalls guid)⟩
  · intro guid expiry hexpiry hdropped
    rw [hcopy] at hexpiry
    exact (h.lapsed guid expiry hexpiry hdropped).concat (spares_of_forall hcalls guid)

theorem mirrors_of_flush {vain : List CombatCall} (hcalls : r.calls = vain ++ [.flush]) :
    Mirrors (rulings ++ [r]) Exclusions.empty := by
  have hcopy : CombatCall.replay ((rulings ++ [r]).flatMap calls) = fun _ => none := by
    rw [replay_concat, hcalls, List.foldl_append]
    rfl
  constructor
  · intro guid expiry hexpiry
    simp at hexpiry
  · intro guid expiry hexpiry
    rw [hcopy] at hexpiry
    cases hexpiry
  · intro guid expiry hexpiry
    rw [hcopy] at hexpiry
    cases hexpiry

theorem Mirrors.afterExclude (h : Mirrors rulings s) {vain : List CombatCall}
    (hdecision : r.decision = some (.exclude other))
    (hcalls : r.calls = vain ++ [.exclude other (r.now.after Exclusions.lifetime)])
    (hvain : ∀ call ∈ vain, call.changesExclusions = false) :
    Mirrors (rulings ++ [r]) (s.add other Exclusions.lifetime r.now).2 := by
  have hcopy : CombatCall.replay ((rulings ++ [r]).flatMap calls) =
      Function.update (CombatCall.replay (rulings.flatMap calls)) other
        (some (r.now.after Exclusions.lifetime)) := by
    rw [replay_concat, hcalls, List.foldl_append, CombatCall.foldl_note_of_forall hvain]
    rfl
  constructor
  · intro guid expiry hexpiry
    rw [hcopy]
    by_cases hguid : guid = other
    · subst hguid
      rw [Exclusions.expiry?_add_self] at hexpiry
      rw [Function.update_self, hexpiry]
    · rw [Function.update_of_ne hguid]
      exact h.stored guid expiry ((Exclusions.expiry?_add_iff_of_ne hguid _).mp hexpiry).1
  · intro guid expiry hexpiry
    rw [hcopy] at hexpiry
    by_cases hguid : guid = other
    · subst hguid
      rw [Function.update_self] at hexpiry
      obtain rfl := Option.some.inj hexpiry
      exact ⟨[], rulings, r, rfl, by simp [hcalls], by simp⟩
    · rw [Function.update_of_ne hguid] at hexpiry
      obtain ⟨after, htold⟩ := h.told guid expiry hexpiry
      exact ⟨_, htold.concat (spares_of_ne hcalls hvain hguid)⟩
  · intro guid expiry hexpiry hdropped
    rw [hcopy] at hexpiry
    by_cases hguid : guid = other
    · subst hguid
      rw [Function.update_self] at hexpiry
      rw [Exclusions.expiry?_add_self] at hdropped
      exact absurd hexpiry hdropped
    · rw [Function.update_of_ne hguid] at hexpiry
      have hspares := spares_of_ne hcalls hvain hguid
      by_cases hstored : s.expiry? guid = some expiry
      · -- The entry was stored until now, so this is the exclusion that drops it.
        have hle : expiry ≤ r.now := by
          rw [← Timestamp.not_lt]
          intro hlt
          exact hdropped ((Exclusions.expiry?_add_iff_of_ne hguid _).mpr ⟨hstored, hlt⟩)
        obtain ⟨after, htold⟩ := h.told guid expiry hexpiry
        exact ⟨_, htold.concat hspares, r, by simp, ⟨other, hdecision⟩, hle⟩
      · exact (h.lapsed guid expiry hexpiry hstored).concat hspares

theorem Leads.mirrors (h : Leads Exclusions.empty rulings s) : Mirrors rulings s := by
  apply h.induction_concat mirrors_nil
  intro rulings s r hmirrors hr
  cases hr.upshot with
  | neutral _ hexclusions hcalls =>
      rw [hexclusions]
      exact hmirrors.afterNeutral hcalls
  | flushed _ hexclusions hcalls =>
      obtain ⟨vain, hcalls⟩ := hcalls
      rw [hexclusions]
      exact mirrors_of_flush hcalls
  | excluded guid hdecision _ hexclusions hcalls =>
      obtain ⟨vain, hcalls, hvain⟩ := hcalls
      rw [hexclusions]
      exact hmirrors.afterExclude hdecision hcalls hvain

/-- Every exclusion that was made since the last flush was made at `now` or before. -/
def NoneAhead (rulings : List Ruling) (now : Timestamp) : Prop :=
  ∀ before r after, rulings = before ++ r :: after →
    (∃ guid, r.decision = some (.exclude guid)) → (∀ later ∈ after, .flush ∉ later.calls) →
      r.now ≤ now

theorem Lapsed.le_of_noneAhead {now : Timestamp} (h : Lapsed rulings guid expiry)
    (hahead : NoneAhead rulings now) : expiry ≤ now := by
  obtain ⟨after, ⟨before, origin, rfl, -, hspares⟩, pruner, hpruner, hexclude, hexpiry⟩ := h
  obtain ⟨between, rest, rfl⟩ := List.append_of_mem hpruner
  have hpruned : pruner.now ≤ now := by
    apply hahead (before ++ origin :: between) pruner rest (by simp) hexclude
    intro later hlater
    exact (hspares later (by simp [hlater])).1
  rw [Timestamp.le_iff_toNat_le] at *
  omega

theorem Mirrors.contains_iff {now : Timestamp} (h : Mirrors rulings s)
    (hahead : NoneAhead rulings now) (guid : Guid) :
    s.contains guid now = true ↔
      ∃ expiry, CombatCall.replay (rulings.flatMap calls) guid = some expiry ∧ now < expiry := by
  rw [Exclusions.contains_iff]
  constructor
  · rintro ⟨expiry, hexpiry, hlive⟩
    exact ⟨expiry, h.stored guid expiry hexpiry, hlive⟩
  · rintro ⟨expiry, hexpiry, hlive⟩
    refine ⟨expiry, ?_, hlive⟩
    by_contra hdropped
    have hle := (h.lapsed guid expiry hexpiry hdropped).le_of_noneAhead hahead
    exact Timestamp.not_lt.mpr hle hlive

end Ruling

namespace Task

/-- After every run the routine's copy holds what the task holds; what it holds beyond that has
lapsed; and at readings that no exclusion since the last flush was ahead of, both exclude the same
identities. -/
theorem exclusions_mirrored (config : Except ConfigError Config) (requests : List (Request ε)) :
    let exclusions := ((fresh config).after requests).exclusions
    let copy := CombatCall.replay ((fresh config).combatLog requests)
    let rulings := (fresh config).rulings requests
    (∀ entry ∈ exclusions.entries, copy entry.1 = some entry.2) ∧
      (∀ guid expiry, copy guid = some expiry → (guid, expiry) ∉ exclusions.entries →
        Ruling.Lapsed rulings guid expiry) ∧
      ∀ now, Ruling.NoneAhead rulings now → ∀ guid,
        exclusions.contains guid now = true ↔
          ∃ expiry, copy guid = some expiry ∧ now < expiry := by
  intro exclusions copy rulings
  obtain ⟨hleads, hlog⟩ := leads_fresh config requests
  have hmirrors : Ruling.Mirrors rulings exclusions := hleads.mirrors
  have hcopy : copy = CombatCall.replay (rulings.flatMap Ruling.calls) :=
    congrArg CombatCall.replay hlog
  rw [hcopy]
  refine ⟨?_, ?_, fun now hahead => hmirrors.contains_iff hahead⟩
  · intro entry hentry
    exact hmirrors.stored entry.1 entry.2 (Exclusions.expiry?_eq_some_iff.mpr hentry)
  · intro guid expiry hexpiry hdropped
    exact hmirrors.lapsed guid expiry hexpiry (mt Exclusions.expiry?_eq_some_iff.mp hdropped)

end Task

end Encounter
