import Encounter.Proofs.World.Expiry
import Encounter.World.Basic
import Mathlib.Algebra.Group.Nat.Defs

/-!
# Clocks that run ahead

A clock that runs `d` milliseconds ahead puts every reading and every expiry `d` later, and as long
as it does not reach its end it puts no two of them in another order.  Exclusions that differ in
this way alone therefore exclude the same identities at corresponding readings, and go on differing
in this way alone whatever is added at them.
-/

namespace Encounter

namespace Timestamp

variable {s t : Timestamp} {d : ℕ}

def later (d : ℕ) (t : Timestamp) : Timestamp :=
  ⟨UInt64.ofNat (t.millis.toNat + d)⟩

theorem toNat_later (h : t.millis.toNat + d < 2 ^ 64) :
    (t.later d).millis.toNat = t.millis.toNat + d :=
  UInt64.toNat_ofNat_of_lt' h

theorem later_lt_later_iff (hs : s.millis.toNat + d < 2 ^ 64) (ht : t.millis.toNat + d < 2 ^ 64) :
    s.later d < t.later d ↔ s < t := by
  rw [lt_iff_toNat_lt, lt_iff_toNat_lt, toNat_later hs, toNat_later ht]
  omega

theorem toNat_after_of_lt {span : Span} (h : t.millis.toNat + span.millis < 2 ^ 64) :
    (t.after span).millis.toNat = t.millis.toNat + span.millis := by
  have hlast : last.millis.toNat = 2 ^ 64 - 1 := rfl
  rw [toNat_after, hlast]
  omega

/-- Where the clock does not end, it makes no difference whether it is put ahead or waits first. -/
theorem after_later {span : Span} (h : t.millis.toNat + d + span.millis < 2 ^ 64) :
    (t.later d).after span = (t.after span).later d := by
  have hlater : (t.later d).millis.toNat = t.millis.toNat + d := toNat_later (by omega)
  have hafter : (t.after span).millis.toNat = t.millis.toNat + span.millis :=
    toNat_after_of_lt (by omega)
  have hmillis : ((t.later d).after span).millis.toNat = ((t.after span).later d).millis.toNat :=
    calc
      _ = t.millis.toNat + d + span.millis := by rw [toNat_after_of_lt (by omega), hlater]
      _ = t.millis.toNat + span.millis + d := Nat.add_right_comm _ _ _
      _ = _ := by rw [toNat_later (by omega), hafter]
  exact congrArg mk (UInt64.toNat_inj.mp hmillis)

end Timestamp

def World.later (d : ℕ) (w : World) : World :=
  { w with now := w.now.later d }

namespace Exclusions

/-- The second set excludes what the first does, each identity until `d` later. -/
structure Later (d : ℕ) (s s' : Exclusions) : Prop where
  room : ∀ guid expiry, s.expiry? guid = some expiry → expiry.millis.toNat + d < 2 ^ 64
  expiry?_eq : ∀ guid, s'.expiry? guid = (s.expiry? guid).map (Timestamp.later d)

variable {s s' : Exclusions} {guid : Guid} {now : Timestamp} {d : ℕ}

theorem later_empty (d : ℕ) : empty.Later d empty where
  room guid expiry h := by simp at h
  expiry?_eq _ := rfl

theorem Later.contains_eq (h : s.Later d s') (guid : Guid) (hnow : now.millis.toNat + d < 2 ^ 64) :
    s'.contains guid (now.later d) = s.contains guid now := by
  rw [contains, contains, h.expiry?_eq]
  cases hexpiry : s.expiry? guid with
  | none => rfl
  | some expiry => simp [Timestamp.later_lt_later_iff hnow (h.room guid expiry hexpiry)]

theorem Later.add (h : s.Later d s') (guid : Guid) {span : Span}
    (hnow : now.millis.toNat + d + span.millis < 2 ^ 64) :
    (s.add guid span now).2.Later d (s'.add guid span (now.later d)).2 := by
  constructor
  · intro other expiry hexpiry
    by_cases hother : other = guid
    · rw [hother, expiry?_add_self] at hexpiry
      obtain rfl := Option.some.inj hexpiry
      rw [Timestamp.toNat_after_of_lt (by omega)]
      omega
    · exact h.room other expiry ((expiry?_add_iff_of_ne hother span).mp hexpiry).1
  · intro other
    by_cases hother : other = guid
    · rw [hother, expiry?_add_self, expiry?_add_self, Option.map_some, Timestamp.after_later hnow]
    · ext expiry
      simp only [Option.map_eq_some_iff, expiry?_add_iff_of_ne hother, h.expiry?_eq]
      -- An entry is dropped on the one side exactly if it is dropped on the other.
      have hlive : ∀ expiry, s.expiry? other = some expiry →
          (now.later d < expiry.later d ↔ now < expiry) := fun expiry hexpiry =>
        Timestamp.later_lt_later_iff (by omega) (h.room other expiry hexpiry)
      constructor
      · rintro ⟨⟨expiry, hexpiry, rfl⟩, hlt⟩
        exact ⟨expiry, ⟨hexpiry, (hlive expiry hexpiry).mp hlt⟩, rfl⟩
      · rintro ⟨expiry, ⟨hexpiry, hlt⟩, rfl⟩
        exact ⟨⟨expiry, hexpiry, rfl⟩, (hlive expiry hexpiry).mpr hlt⟩

end Exclusions

end Encounter
