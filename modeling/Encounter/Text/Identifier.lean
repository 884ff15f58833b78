import Encounter.Text.Identifier.Runs

/-!
# Identifiers in text

An identifier starts with an underscore or a letter and goes on with letters, digits, underscores
and marks, in the sense of the Unicode properties `XID_Start` and `XID_Continue`.
-/

namespace Encounter.Text.Identifier

def inRuns (runs : List (Nat × Nat)) (n : Nat) : Bool :=
  runs.any fun run => run.1 ≤ n && n ≤ run.2

def isStart (c : Char) : Bool :=
  c.isAlpha || c == '_' || (128 ≤ c.toNat && inRuns startRuns c.toNat)

def isContinue (c : Char) : Bool :=
  c.isAlphanum || c == '_' ||
    (128 ≤ c.toNat && (inRuns startRuns c.toNat || inRuns furtherRuns c.toNat))

theorem isContinue_of_isStart {c : Char} (h : isStart c = true) : isContinue c = true := by
  simp only [isStart, isContinue, Char.isAlphanum, Bool.or_eq_true, Bool.and_eq_true] at h ⊢
  rcases h with (h | h) | ⟨hn, h⟩
  · exact Or.inl (Or.inl (Or.inl h))
  · exact Or.inl (Or.inr h)
  · exact Or.inr ⟨hn, Or.inl h⟩

end Encounter.Text.Identifier
