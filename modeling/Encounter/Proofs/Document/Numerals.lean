import Encounter.Document.Number
import Encounter.Proofs.Text.Denotation
import Mathlib.Tactic.IntervalCases

/-!
# Numerals as literals

A decimal numeral, with leading zeros or without, is read as a literal of the number that it denotes
wherever a number of that size is wanted.
-/

namespace Encounter.Document.Number

variable {c : Char} {digits : List Char} {n bits : ℕ}

theorem digit?_of_isDigit (h : c.isDigit = true) : Text.digit? 10 c = some (c.toNat - '0'.toNat) := by
  obtain ⟨d, hd, rfl⟩ := Text.exists_digitChar_of_isDigit h
  interval_cases d <;> rfl

theorem isIntegerChar_of_isDigit (h : c.isDigit = true) : isIntegerChar c = true := by
  obtain ⟨d, hd, rfl⟩ := Text.exists_digitChar_of_isDigit h
  interval_cases d <;> rfl

theorem digitsOnto?_eq (h : ∀ c ∈ digits, c.isDigit = true) (value : ℕ) :
    digitsOnto? 10 value digits = some (Nat.ofDigitChars 10 digits value) := by
  induction digits generalizing value with
  | nil => rfl
  | cons c digits ih =>
      obtain ⟨hc, hdigits⟩ := List.forall_mem_cons.mp h
      have hscore : c ≠ '_' := by
        rintro rfl
        exact absurd hc (by decide)
      rw [digitsOnto?.eq_3 _ _ _ _ hscore, digit?_of_isDigit hc, Option.bind_some, ih hdigits,
        Nat.ofDigitChars_cons, Nat.mul_comm]

theorem digits?_eq_some (h : Text.Numeral digits n) : digits? 10 digits = some n := by
  have hvalue : Text.Decimal.digits? digits = some n := Text.digits?_eq_some_iff.mpr h
  have hall := h.isDigit
  simp only [Text.Decimal.digits?, Option.ite_none_right_eq_some] at hvalue
  cases digits with
  | nil => simp at hvalue
  | cons c digits =>
      have hscore : c ≠ '_' := by
        rintro rfl
        exact absurd (hall '_' List.mem_cons_self) (by decide)
      rw [Number.digits?.eq_3 _ _ (by simp) (by simpa using hscore), digitsOnto?_eq hall]
      exact hvalue.2

theorem splitSign_eq (h : ∀ c ∈ digits, c.isDigit = true) : splitSign digits = (false, digits) := by
  unfold splitSign
  split
  · exact absurd (h '+' List.mem_cons_self) (by decide)
  · exact absurd (h '-' List.mem_cons_self) (by decide)
  · rfl

theorem splitRadix_eq (h : ∀ c ∈ digits, c.isDigit = true) : splitRadix digits = (10, digits) := by
  unfold splitRadix
  split
  · exact absurd (h 'b' (by simp)) (by decide)
  · exact absurd (h 'o' (by simp)) (by decide)
  · exact absurd (h 'x' (by simp)) (by decide)
  · rfl

theorem integer?_eq_some (h : Text.Numeral digits n) : integer? digits = some ((n : ℤ), none) := by
  have hall := h.isDigit
  have hchars : ∀ c ∈ digits, isIntegerChar c = true :=
    fun c hc => isIntegerChar_of_isDigit (hall c hc)
  have hnamed : digits.dropWhile isIntegerChar = [] := List.dropWhile_eq_nil_iff.mpr hchars
  have hrun : digits.takeWhile isIntegerChar = digits := List.takeWhile_eq_self_iff.mpr hchars
  have htype : (IntegerType.all.find? fun type => type.name.toList == []) = none := by decide
  simp only [integer?, splitSign_eq hall, splitRadix_eq hall, hnamed, hrun, htype,
    digits?_eq_some h]
  rfl

theorem holds_unsigned (h : n < 2 ^ bits) : (IntegerType.unsigned bits).holds n = true := by
  have hpow : Int.pow 2 bits = ((2 ^ bits : ℕ) : ℤ) := by
    rw [Nat.cast_pow]
    rfl
  simp only [IntegerType.holds, IntegerType.unsigned, hpow, Bool.false_eq_true, if_false,
    Bool.and_eq_true, decide_eq_true_eq]
  exact ⟨Int.natCast_nonneg n, Int.ofNat_lt.mpr h⟩

/-- A field takes a numeral for the number that it denotes if its width allows that. -/
theorem unsigned?_eq_some (h : Text.Numeral digits n) (hn : n < 2 ^ bits) :
    unsigned? bits digits = some n := by
  simp only [unsigned?, integer?_eq_some h, holds_unsigned hn, Option.all_none, Bool.and_self,
    if_true, Int.toNat_natCast]

theorem isNumber_of_numeral (h : Text.Numeral digits n) (hn : n < 2 ^ 64) :
    isNumber digits = true := by
  have hinteger : isInteger digits = true := by
    rw [isInteger, integer?_eq_some h, Option.any_some, Bool.or_eq_true]
    exact .inl (holds_unsigned hn)
  rw [isNumber, hinteger, Bool.true_or]

/-! ## Radix sixteen -/

theorem exists_digitChar_of_mem_toDigits {radix n : ℕ} (hradix : 1 < radix) {c : Char}
    (h : c ∈ Nat.toDigits radix n) : ∃ d < radix, Nat.digitChar d = c := by
  induction n using Nat.strongRecOn with
  | ind n ih =>
      by_cases hn : n < radix
      · rw [Nat.toDigits_of_lt_base hn, List.mem_singleton] at h
        exact ⟨n, hn, h.symm⟩
      · have hless : n / radix < n := Nat.div_lt_self (by omega) hradix
        rw [Nat.toDigits_of_base_le hradix (by omega), List.mem_append, List.mem_singleton] at h
        rcases h with h | h
        · exact ih _ hless h
        · exact ⟨n % radix, Nat.mod_lt n (by omega), h.symm⟩

theorem digit?_toUpper_digitChar {d : ℕ} (h : d < 16) :
    Text.digit? 16 (Nat.digitChar d).toUpper = some d := by
  interval_cases d <;> rfl

theorem digitsOnto?_toUpper_digitChar {d : ℕ} (h : d < 16) (value : ℕ) (rest : List Char) :
    digitsOnto? 16 value ((Nat.digitChar d).toUpper :: rest) =
      digitsOnto? 16 (value * 16 + d) rest := by
  have hscore : (Nat.digitChar d).toUpper ≠ '_' := by
    interval_cases d <;> decide
  rw [digitsOnto?.eq_3 _ _ _ _ hscore, digit?_toUpper_digitChar h, Option.bind_some]

/-- Digits of radix sixteen in capitals are read back as the number that they have been written for,
whatever follows them. -/
theorem digitsOnto?_toDigits_append (n : ℕ) (rest : List Char) :
    digitsOnto? 16 0 ((Nat.toDigits 16 n).map Char.toUpper ++ rest) = digitsOnto? 16 n rest := by
  induction n using Nat.strongRecOn generalizing rest with
  | ind n ih =>
      by_cases hn : n < 16
      · rw [Nat.toDigits_of_lt_base hn]
        exact (digitsOnto?_toUpper_digitChar hn 0 rest).trans (by rw [Nat.zero_mul, Nat.zero_add])
      · have hless : n / 16 < n := Nat.div_lt_self (by omega) (by decide)
        have hdigit : n % 16 < 16 := Nat.mod_lt n (by decide)
        rw [Nat.toDigits_of_base_le (by decide) (by omega), List.map_append, List.append_assoc,
          ih _ hless, List.map_cons, List.cons_append, digitsOnto?_toUpper_digitChar hdigit,
          Nat.div_add_mod' n 16]
        rfl

/-! ## Where a literal ends -/

theorem isStart_of_isDigit (h : c.isDigit = true) : isStart c = true := by
  rw [isStart, h]
  rfl

theorem split_of_isDigit (h : c.isDigit = true) (s : List Char) :
    split (c :: s) = (c :: (split s).1, (split s).2) := by
  have hcontinue : isContinue c = true := by
    rw [isContinue, Char.isAlphanum, h]
    simp
  have hpoint : (c == '.') = false := by
    rw [beq_eq_false_iff_ne]
    rintro rfl
    exact absurd h (by decide)
  rw [split, hcontinue, hpoint]
  rfl

theorem split_append (h : ∀ c ∈ digits, c.isDigit = true) {rest : List Char}
    (hrest : ∀ c ∈ rest.head?, isContinue c = false) : split (digits ++ rest) = (digits, rest) := by
  induction digits with
  | nil =>
      cases rest with
      | nil => rfl
      | cons c rest =>
          rw [List.nil_append, split, hrest c rfl]
          rfl
  | cons c digits ih =>
      obtain ⟨hc, hdigits⟩ := List.forall_mem_cons.mp h
      rw [List.cons_append, split_of_isDigit hc, ih hdigits]

end Encounter.Document.Number
