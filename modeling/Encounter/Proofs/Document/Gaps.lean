import Encounter.Document.Gap
import Mathlib.Tactic.Common

/-!
# What may stand between tokens

A gap is made of blanks, of line comments with their line ends and of block comments, which may hold
other block comments.  Reading on behind a gap leads to what follows it.
-/

namespace Encounter.Document.Gap

/-- What follows the opening mark of a block comment, up to its closing mark. -/
inductive IsBlock : List Char → Prop
  | close : IsBlock ['*', '/']
  | char {c : Char} {s : List Char} (hclose : ¬ (c = '*' ∧ s.head? = some '/'))
      (hopen : ¬ (c = '/' ∧ s.head? = some '*')) (h : IsBlock s) : IsBlock (c :: s)
  | nested {inner s : List Char} (hinner : IsBlock inner) (h : IsBlock s) :
      IsBlock ('/' :: '*' :: (inner ++ s))

/-- A run of blanks and comments. -/
inductive IsGap : List Char → Prop
  | nil : IsGap []
  | blank {c : Char} {s : List Char} (hc : isBlank c = true) (h : IsGap s) : IsGap (c :: s)
  | line {comment s : List Char} (hcomment : '\n' ∉ comment) (h : IsGap s) :
      IsGap ('/' :: '/' :: (comment ++ '\n' :: s))
  | block {comment s : List Char} (hcomment : IsBlock comment) (h : IsGap s) :
      IsGap ('/' :: '*' :: (comment ++ s))

/-- What is left of a text when a block comment ends inside `depth` others. -/
def resume : ℕ → List Char → Option (List Char)
  | 0, rest => some rest
  | depth + 1, rest => dropBlock depth rest

theorem IsBlock.ne_nil {s : List Char} (h : IsBlock s) : s ≠ [] := by
  cases h <;> simp

/-- Behind a character that starts no mark, a block comment goes on. -/
theorem dropBlock_cons {c : Char} {s : List Char} (hclose : ¬ (c = '*' ∧ s.head? = some '/'))
    (hopen : ¬ (c = '/' ∧ s.head? = some '*')) (depth : ℕ) :
    dropBlock depth (c :: s) = dropBlock depth s := by
  rw [dropBlock.eq_5]
  · intro rest hc hs
    exact hopen ⟨hc, by rw [hs]; rfl⟩
  · intro rest _ hc hs
    exact hclose ⟨hc, by rw [hs]; rfl⟩
  · intro inner rest _ hc hs
    exact hclose ⟨hc, by rw [hs]; rfl⟩

theorem IsBlock.dropBlock_append {s : List Char} (h : IsBlock s) (depth : ℕ) (rest : List Char) :
    dropBlock depth (s ++ rest) = resume depth rest := by
  induction h generalizing depth rest with
  | close => cases depth <;> rfl
  | @char c s hclose hopen h ih =>
      have hhead : (s ++ rest).head? = s.head? := by
        obtain ⟨d, tail, rfl⟩ := List.exists_cons_of_ne_nil h.ne_nil
        rfl
      rw [List.cons_append, dropBlock_cons (by rwa [hhead]) (by rwa [hhead]), ih]
  | @nested inner s hinner h ihinner ih =>
      have hopen : dropBlock depth ('/' :: '*' :: (inner ++ s) ++ rest) =
          dropBlock (depth + 1) (inner ++ (s ++ rest)) := by
        rw [← List.append_assoc]
        rfl
      rw [hopen, ihinner, resume, ih]

/-- Whether a character may stand directly behind a gap and end it. -/
def endsGap (c : Char) : Bool :=
  !isBlank c && c != '/'

theorem dropWithin_blank {c : Char} (hc : isBlank c = true) (steps : ℕ) (s : List Char) :
    dropWithin (steps + 1) (c :: s) = dropWithin steps s := by
  rw [dropWithin, if_pos hc]

theorem dropWithin_comment {s left : List Char} (h : dropComment s = some left) (steps : ℕ) :
    dropWithin (steps + 1) ('/' :: s) = dropWithin steps left := by
  have hblank : isBlank '/' = false := by decide
  rw [dropWithin, hblank, h]
  rfl

theorem dropComment_line {comment : List Char} (h : '\n' ∉ comment) (rest : List Char) :
    dropComment ('/' :: (comment ++ '\n' :: rest)) = some ('\n' :: rest) := by
  have hall : ∀ c ∈ comment, (c != '\n') = true := by
    intro c hc
    simpa using ne_of_mem_of_not_mem hc h
  rw [dropComment, List.dropWhile_append_of_pos hall]
  rfl

/-- A gap is dropped whole, in as many steps as there are characters. -/
theorem IsGap.dropWithin_append {gap rest : List Char} (h : IsGap gap)
    (hrest : ∀ c ∈ rest.head?, endsGap c = true) {steps : ℕ}
    (hsteps : (gap ++ rest).length ≤ steps) : dropWithin steps (gap ++ rest) = some rest := by
  induction h generalizing steps with
  | nil =>
      cases rest with
      | nil => cases steps <;> rfl
      | cons c rest =>
          obtain ⟨steps, rfl⟩ := Nat.exists_eq_succ_of_ne_zero (Nat.ne_zero_of_lt hsteps)
          have hc : isBlank c = false ∧ c ≠ '/' := by simpa [endsGap] using hrest c rfl
          rw [List.nil_append, dropWithin, hc.1, if_neg (by simp), if_neg hc.2]
  | blank hc h ih =>
      obtain ⟨steps, rfl⟩ := Nat.exists_eq_succ_of_ne_zero (Nat.ne_zero_of_lt hsteps)
      rw [List.cons_append, dropWithin_blank hc]
      exact ih (Nat.le_of_succ_le_succ hsteps)
  | @line comment s hcomment h ih =>
      have hlength := hsteps
      simp only [List.cons_append, List.append_assoc, List.length_cons, List.length_append] at hlength
      obtain ⟨steps, rfl⟩ : ∃ n, steps = n + 2 := ⟨steps - 2, by omega⟩
      have hcut := dropComment_line hcomment (s ++ rest)
      rw [List.cons_append, List.cons_append, List.append_assoc, List.cons_append,
        dropWithin_comment hcut, dropWithin_blank (by decide)]
      exact ih (by simp only [List.length_append]; omega)
  | @block comment s hcomment h ih =>
      have hlength := hsteps
      simp only [List.cons_append, List.append_assoc, List.length_cons, List.length_append] at hlength
      obtain ⟨steps, rfl⟩ : ∃ n, steps = n + 1 := ⟨steps - 1, by omega⟩
      have hcut : dropComment ('*' :: (comment ++ (s ++ rest))) = some (s ++ rest) :=
        hcomment.dropBlock_append 0 (s ++ rest)
      rw [List.cons_append, List.cons_append, List.append_assoc, dropWithin_comment hcut]
      exact ih (by simp only [List.length_append]; omega)

end Encounter.Document.Gap
