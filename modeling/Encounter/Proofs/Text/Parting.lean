import Encounter.Proofs.Text.Denotation
import Mathlib.Tactic.IntervalCases

/-!
# Where one text ends and the next begins

Texts written one behind the other can be told apart if each consists of characters of one class and
what follows it starts with a character of no such class.  Numbers, words and lines are told apart
in this way, whatever follows them.
-/

namespace Encounter.Text

variable {α β : Type} {p : Char → Bool} {write : α → String}

/-- A run of characters in `p` ends where the rest of the text starts with none. -/
theorem eq_and_eq_of_append_eq {s t u v : List Char} (hs : ∀ c ∈ s, p c = true)
    (ht : ∀ c ∈ t.head?, p c = false) (hu : ∀ c ∈ u, p c = true)
    (hv : ∀ c ∈ v.head?, p c = false) (h : s ++ t = u ++ v) : s = u ∧ t = v := by
  have hrest : t = v := by
    rw [← dropWhile_append_of_head hs ht, h, dropWhile_append_of_head hu hv]
  subst hrest
  exact ⟨List.append_cancel_right h, rfl⟩

/-- What is written is known, and so is all that follows it, as long as that is nothing or starts
with a character outside `p`. -/
def Delimited (p : Char → Bool) (write : α → String) : Prop :=
  ∀ ⦃a b : α⦄ ⦃s t : List Char⦄, (∀ c ∈ s.head?, p c = false) → (∀ c ∈ t.head?, p c = false) →
    (write a).toList ++ s = (write b).toList ++ t → a = b ∧ s = t

theorem delimited_of_injective (hwrite : Function.Injective write)
    (hall : ∀ a, ∀ c ∈ (write a).toList, p c = true) : Delimited p write := by
  intro a b s t hs ht h
  obtain ⟨hsame, hrest⟩ := eq_and_eq_of_append_eq (hall a) hs (hall b) ht h
  exact ⟨hwrite (String.toList_injective hsame), hrest⟩

theorem Delimited.comp (h : Delimited p write) {f : β → α} (hf : Function.Injective f) :
    Delimited p fun b => write (f b) := by
  intro a b s t hs ht hsame
  obtain ⟨hvalue, hrest⟩ := h hs ht hsame
  exact ⟨hf hvalue, hrest⟩

theorem isDigit_of_mem_repr {n : ℕ} {c : Char} (h : c ∈ n.repr.toList) : c.isDigit = true := by
  rw [Nat.toList_repr] at h
  exact (numeral_toDigits n).isDigit c h

theorem delimited_repr : Delimited Char.isDigit Nat.repr :=
  delimited_of_injective repr_injective fun _ _ => isDigit_of_mem_repr

/-! ## Words -/

def inWord (c : Char) : Bool :=
  c.isAlpha || c == '_'

/-! ## Lines -/

/-- The characters that end a line, each of them alone. -/
def lineBreaks : List Char :=
  ['\n', '\x0b', '\x0c', '\r', '\x85', '\u2028', '\u2029']

/-- Every character is an ASCII one that shows, or a blank. -/
def IsPrintable (s : String) : Prop :=
  ∀ c ∈ s.toList, ' ' ≤ c ∧ c ≤ '~'

theorem isPrintable_append {s t : String} :
    IsPrintable (s ++ t) ↔ IsPrintable s ∧ IsPrintable t := by
  simp only [IsPrintable, String.toList_append, List.forall_mem_append]

theorem isPrintable_of_inWord {s : String} (h : ∀ c ∈ s.toList, inWord c = true) :
    IsPrintable s := by
  intro c hc
  have hword := h c hc
  unfold inWord Char.isAlpha Char.isUpper Char.isLower at hword
  simp only [Bool.or_eq_true, Bool.and_eq_true, decide_eq_true_eq, beq_iff_eq] at hword
  rcases hword with (⟨hle, hge⟩ | ⟨hle, hge⟩) | rfl
  · exact ⟨Char.le_trans (by decide) hle, Char.le_trans hge (by decide)⟩
  · exact ⟨Char.le_trans (by decide) hle, Char.le_trans hge (by decide)⟩
  · decide

theorem isPrintable_repr (n : ℕ) : IsPrintable n.repr := by
  intro c hc
  obtain ⟨d, hd, rfl⟩ := exists_digitChar_of_isDigit (isDigit_of_mem_repr hc)
  interval_cases d <;> decide

theorem IsPrintable.disjoint_lineBreaks {s : String} (h : IsPrintable s) :
    s.toList.Disjoint lineBreaks := by
  have hnone : ∀ c ∈ lineBreaks, ¬ (' ' ≤ c ∧ c ≤ '~') := by simp [lineBreaks]
  intro c hc hbreak
  exact hnone c hbreak (h c hc)

/-- Lines that are ended one by one can be told from what they make up together. -/
theorem eq_of_join_ended {lines lines' : List String}
    (hlines : ∀ line ∈ lines, '\n' ∉ line.toList) (hlines' : ∀ line ∈ lines', '\n' ∉ line.toList)
    (h : String.join (lines.map (· ++ "\n")) = String.join (lines'.map (· ++ "\n"))) :
    lines = lines' := by
  induction lines generalizing lines' with
  | nil =>
      cases lines' with
      | nil => rfl
      | cons line' rest' =>
          have hlists := congrArg String.toList h
          simp at hlists
  | cons line rest ih =>
      cases lines' with
      | nil =>
          have hlists := congrArg String.toList h
          simp at hlists
      | cons line' rest' =>
          obtain ⟨hline, hrest⟩ := List.forall_mem_cons.mp hlines
          obtain ⟨hline', hrest'⟩ := List.forall_mem_cons.mp hlines'
          have hlists := congrArg String.toList h
          simp only [List.map_cons, String.join_cons, String.toList_append,
            List.append_assoc] at hlists
          have hended (s : List Char) : ∀ c ∈ ("\n".toList ++ s).head?, (c != '\n') = false := by
            simp
          have hinside {line : String} (hline : '\n' ∉ line.toList) :
              ∀ c ∈ line.toList, (c != '\n') = true := by
            intro c hc
            exact bne_iff_ne.mpr (ne_of_mem_of_not_mem hc hline)
          obtain ⟨hsame, hlater⟩ := eq_and_eq_of_append_eq (hinside hline) (hended _)
            (hinside hline') (hended _) hlists
          have hjoin := String.toList_injective (List.append_cancel_left hlater)
          rw [String.toList_injective hsame, ih hrest hrest' hjoin]

end Encounter.Text
