import Encounter.Proofs.Task.Chronicle
import Encounter.Proofs.World.Expiry

/-!
# The time between two exclusions of one identity

An exclusion leaves an entry behind that only three things can take away: a flush, a later exclusion
whose reading has reached its expiry, and an exclusion of the same identity.  The last does not
happen while the entry is live.  So an identity that is excluded a second time, with no flush in
between, has seen some tick at or after the expiry of its first exclusion, even if the clock ran
backward since.
-/

namespace Encounter

variable {ε : Type}

namespace Ruling

variable {s s' : Exclusions} {r : Ruling} {guid : Guid} {expiry : Timestamp}

theorem Lawful.expiry?_kept (h : r.Lawful s) (hexpiry : s.expiry? guid = some expiry)
    (hflush : r.decision ≠ some .flushExclusions) (hlive : r.now < expiry) :
    (r.exclusionsAfter s).expiry? guid = some expiry := by
  cases h.upshot with
  | neutral _ hexclusions =>
      rw [hexclusions]
      exact hexpiry
  | flushed hdecision => exact absurd hdecision hflush
  | excluded other _ hnew hexclusions =>
      have hne : guid ≠ other := by
        rintro rfl
        have hcontains := Exclusions.contains_iff.mpr ⟨expiry, hexpiry, hlive⟩
        simp [hnew] at hcontains
      rw [hexclusions, Exclusions.expiry?_add_iff_of_ne hne]
      exact ⟨hexpiry, hlive⟩

theorem Leads.expiry?_kept {rulings : List Ruling} (h : Leads s rulings s')
    (hexpiry : s.expiry? guid = some expiry)
    (hkept : ∀ r ∈ rulings, r.decision ≠ some .flushExclusions ∧ r.now < expiry) :
    s'.expiry? guid = some expiry := by
  induction h with
  | nil => exact hexpiry
  | cons hr _ ih =>
      obtain ⟨hflush, hlive⟩ := hkept _ List.mem_cons_self
      apply ih (hr.expiry?_kept hexpiry hflush hlive)
      intro later hlater
      exact hkept later (List.mem_cons_of_mem _ hlater)

theorem expiry?_exclusionsAfter (s : Exclusions) (hdecision : r.decision = some (.exclude guid)) :
    (r.exclusionsAfter s).expiry? guid = some (r.now.after Exclusions.lifetime) := by
  simp only [exclusionsAfter, hdecision, Option.elim_some, Decision.exclusionsAfter]
  exact Exclusions.expiry?_add_self _

/-- Two exclusions of one identity are separated by a flush or by the expiry of the first. -/
theorem Leads.flush_or_lapse {between : List Ruling} {first second : Ruling}
    (h : Leads s (first :: (between ++ [second])) s')
    (hfirst : first.decision = some (.exclude guid))
    (hsecond : second.decision = some (.exclude guid)) :
    (∃ r ∈ between, r.decision = some .flushExclusions) ∨
      ∃ r ∈ between ++ [second], first.now.after Exclusions.lifetime ≤ r.now := by
  by_contra hnone
  obtain ⟨hflush, hlapse⟩ := not_or.mp hnone
  have hlive : ∀ r ∈ between ++ [second], r.now < first.now.after Exclusions.lifetime := by
    intro r hr
    by_contra hnot
    exact hlapse ⟨r, hr, Timestamp.not_lt.mp hnot⟩
  cases h with
  | cons _ hrest =>
      obtain ⟨s₂, hbetween, hlast⟩ := hrest.exists_of_append
      have hexpiry := hbetween.expiry?_kept (expiry?_exclusionsAfter _ hfirst) fun r hr =>
        ⟨fun hdecision => hflush ⟨r, hr, hdecision⟩, hlive r (List.mem_append_left _ hr)⟩
      cases hlast with
      | cons hsecondLawful _ =>
          have hnew := hsecondLawful.not_contains guid hsecond
          have hcontains :=
            Exclusions.contains_iff.mpr ⟨_, hexpiry, hlive second (by simp)⟩
          simp [hnew] at hcontains

end Ruling

namespace Task

/-- In every run, an identity is excluded again only after a flush or after some tick at or past
the end of its first exclusion. -/
theorem excluded_again_only_after_lapse {config : Except ConfigError Config}
    {requests : List (Request ε)} {before between after : List Ruling} {first second : Ruling}
    {guid : Guid}
    (hrulings : (fresh config).rulings requests = before ++ first :: (between ++ second :: after))
    (hfirst : first.decision = some (.exclude guid))
    (hsecond : second.decision = some (.exclude guid)) :
    (∃ r ∈ between, r.decision = some .flushExclusions) ∨
      ∃ r ∈ between ++ [second],
        min (first.now.millis.toNat + 300000) (2 ^ 64 - 1) ≤ r.now.millis.toNat := by
  obtain ⟨hleads, -⟩ := leads_fresh config requests
  rw [hrulings] at hleads
  obtain ⟨s, -, hrest⟩ := hleads.exists_of_append
  have hsplit : first :: (between ++ second :: after) =
      (first :: (between ++ [second])) ++ after := by simp
  rw [hsplit] at hrest
  obtain ⟨s', hpair, -⟩ := hrest.exists_of_append
  apply (hpair.flush_or_lapse hfirst hsecond).imp_right
  rintro ⟨r, hr, hle⟩
  refine ⟨r, hr, ?_⟩
  rw [Timestamp.le_iff_toNat_le, Timestamp.toNat_after] at hle
  exact hle

/-- While the boss is shielded and a creature of the kill order lives, the exclusion of another
creature at reading 0 is made again at reading 300000. -/
theorem excluded_again_only_after_lapse_shielded :
    let config : Except ConfigError Config := .ok
      { boss := ⟨100⟩, aura := ⟨7⟩, blacklist := [⟨300⟩], killOrder := [⟨200⟩] }
    let creatures : List Creature :=
      [{ guid := ⟨1⟩, kind := ⟨100⟩, distance := ⟨0⟩, auras := [⟨7⟩] },
        { guid := ⟨2⟩, kind := ⟨200⟩, distance := ⟨0⟩ },
        { guid := ⟨3⟩, kind := ⟨300⟩, distance := ⟨0⟩ }]
    let requests : List (Request Unit) :=
      [.tick .welcoming .obedient { now := ⟨0⟩, creatures } (),
        .tick .welcoming .obedient { now := ⟨1000⟩, creatures } (),
        .tick .welcoming .obedient { now := ⟨300000⟩, creatures } ()]
    let first : Ruling := ⟨⟨0⟩, some (.exclude ⟨3⟩), [.exclude ⟨3⟩ ⟨300000⟩]⟩
    let between : List Ruling := [⟨⟨1000⟩, some (.engagePriority ⟨2⟩), [.target ⟨2⟩ true]⟩]
    let second : Ruling := ⟨⟨300000⟩, some (.exclude ⟨3⟩), [.exclude ⟨3⟩ ⟨600000⟩]⟩
    (fresh config).rulings requests = [] ++ first :: (between ++ second :: []) ∧
      first.decision = some (.exclude ⟨3⟩) ∧ second.decision = some (.exclude ⟨3⟩) ∧
      ((∃ r ∈ between, r.decision = some .flushExclusions) ∨
        ∃ r ∈ between ++ [second],
          min (first.now.millis.toNat + 300000) (2 ^ 64 - 1) ≤ r.now.millis.toNat) := by
  intro config creatures requests first between second
  have hrulings : (fresh config).rulings requests =
      [] ++ first :: (between ++ second :: []) := by decide +kernel
  exact ⟨hrulings, rfl, rfl, excluded_again_only_after_lapse hrulings rfl rfl⟩

end Task

end Encounter
