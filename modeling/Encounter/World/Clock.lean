/-!
# The clock of the world

Clock readings are milliseconds in a 64-bit word and lengths of time are finer than the clock.
Adding a length to a reading drops what is finer than a millisecond and stops at the last reading
there is.
-/

namespace Encounter

structure Timestamp where
  millis : UInt64
  deriving DecidableEq, Repr, Inhabited

structure Span where
  seconds : UInt64
  nanos : UInt32
  deriving DecidableEq, Repr

def Span.millis (span : Span) : Nat :=
  span.seconds.toNat * 1000 + span.nanos.toNat / 1000000

def Span.ofMillis (millis : UInt64) : Span where
  seconds := millis / 1000
  nanos := (millis % 1000).toUInt32 * 1000000

namespace Timestamp

def zero : Timestamp := ⟨0⟩

def last : Timestamp := ⟨18446744073709551615⟩

instance : LT Timestamp := ⟨fun s t => s.millis < t.millis⟩

instance : LE Timestamp := ⟨fun s t => s.millis ≤ t.millis⟩

instance (s t : Timestamp) : Decidable (s < t) :=
  inferInstanceAs (Decidable (s.millis < t.millis))

instance (s t : Timestamp) : Decidable (s ≤ t) :=
  inferInstanceAs (Decidable (s.millis ≤ t.millis))

/-- The reading `span` later, or the last reading if the clock ends before that. -/
def after (now : Timestamp) (span : Span) : Timestamp :=
  ⟨UInt64.ofNat (min (now.millis.toNat + span.millis) last.millis.toNat)⟩

theorem lt_iff_toNat_lt {s t : Timestamp} : s < t ↔ s.millis.toNat < t.millis.toNat :=
  UInt64.lt_iff_toNat_lt

theorem le_iff_toNat_le {s t : Timestamp} : s ≤ t ↔ s.millis.toNat ≤ t.millis.toNat :=
  UInt64.le_iff_toNat_le

theorem not_lt {s t : Timestamp} : ¬ s < t ↔ t ≤ s :=
  UInt64.not_lt

protected theorem le_trans {r s t : Timestamp} (h : r ≤ s) (h' : s ≤ t) : r ≤ t :=
  UInt64.le_trans h h'

protected theorem lt_of_le_of_lt {r s t : Timestamp} (h : r ≤ s) (h' : s < t) : r < t :=
  UInt64.lt_of_le_of_lt h h'

theorem toNat_after (now : Timestamp) (span : Span) :
    (now.after span).millis.toNat = min (now.millis.toNat + span.millis) last.millis.toNat := by
  rw [after, UInt64.toNat_ofNat_of_lt']
  exact Nat.lt_of_le_of_lt (Nat.min_le_right _ _) (by decide)

end Timestamp

/-- Splitting milliseconds into seconds and nanoseconds loses none of them. -/
theorem Span.millis_ofMillis (millis : UInt64) : (Span.ofMillis millis).millis = millis.toNat := by
  have hmod : millis.toNat % 1000 < 1000 := Nat.mod_lt _ (by decide)
  have hprod : millis.toNat % 1000 * 1000000 < 2 ^ 32 := by omega
  simp only [Span.millis, Span.ofMillis, UInt64.toNat_div, UInt32.toNat_mul,
    UInt64.toNat_toUInt32, UInt64.toNat_mod]
  have h1000 : (1000 : UInt64).toNat = 1000 := rfl
  have hmillion : (1000000 : UInt32).toNat = 1000000 := rfl
  rw [h1000, hmillion, Nat.mod_eq_of_lt (by omega : millis.toNat % 1000 < 2 ^ 32),
    Nat.mod_eq_of_lt hprod, Nat.mul_div_cancel _ (by decide)]
  omega

end Encounter
