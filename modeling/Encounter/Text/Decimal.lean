/-!
# Decimal numbers in text

Digits are the ten ASCII ones.  Reading is limited to the words that the numbers are for, so a
number that does not fit is no number.
-/

namespace Encounter.Text.Decimal

def digits? (s : List Char) : Option Nat :=
  if !s.isEmpty && s.all Char.isDigit then some (Nat.ofDigitChars 10 s 0) else none

def dropPlus : List Char → List Char
  | '+' :: rest => rest
  | s => s

def below? (bound : Nat) (s : List Char) : Option Nat :=
  (digits? s).filter (· < bound)

def signedBelow? (bound : Nat) (s : List Char) : Option Nat :=
  below? bound (dropPlus s)

theorem digits?_toDigits (n : Nat) : digits? (Nat.toDigits 10 n) = some n := by
  have hne : Nat.toDigits 10 n ≠ [] := Nat.toDigits_ne_nil
  have hall : (Nat.toDigits 10 n).all Char.isDigit = true := by
    rw [List.all_eq_true]
    intro c hc
    exact Nat.isDigit_of_mem_toDigits (by decide) (by decide) hc
  rw [digits?, hall, Nat.ofDigitChars_toDigits (by decide) (by decide)]
  simp [hne]

end Encounter.Text.Decimal
