import Encounter.Text.Blank
import Encounter.Text.Decimal
import Mathlib.Data.List.DropRight
import Mathlib.Data.List.Forall2
import Mathlib.Data.Nat.Digits.Defs
import Mathlib.Data.String.Basic

/-!
# What a text stands for

A value is given as a text, and what the text stands for is told here without regard to how it is
read: what is left of it between blanks is a numeral, perhaps behind a plus sign, or a truth value
in letters of either case.  Readers find exactly what a text stands for, which is one thing at most.
Texts that are plain ASCII are ordered as their bytes are.
-/

namespace Encounter.Text

/-! ## Between blanks -/

/-- `word` is `s` without the blanks around it. -/
structure Trimmed (s word : List Char) : Prop where
  between : ∃ before after, s = before ++ word ++ after ∧
    (∀ c ∈ before, isBlank c = true) ∧ ∀ c ∈ after, isBlank c = true
  head : ∀ c ∈ word.head?, isBlank c = false
  last : ∀ c ∈ word.getLast?, isBlank c = false

theorem dropWhile_append_of_head {α : Type} {p : α → Bool} {before s : List α}
    (hbefore : ∀ a ∈ before, p a = true) (hs : ∀ a ∈ s.head?, p a = false) :
    (before ++ s).dropWhile p = s := by
  rw [List.dropWhile_append_of_pos hbefore]
  cases s with
  | nil => rfl
  | cons a s => exact List.dropWhile_cons_of_neg (by simp [hs a rfl])

theorem Trimmed.eq_trim {s word : List Char} (h : Trimmed s word) : word = trim s := by
  obtain ⟨before, after, rfl, hbefore, hafter⟩ := h.between
  have hrest : ((word ++ after).reverse.dropWhile isBlank).reverse = word := by
    rw [List.reverse_append, dropWhile_append_of_head (by simpa using hafter)
      (by simpa using h.last), List.reverse_reverse]
  rw [trim, List.append_assoc, List.dropWhile_append_of_pos hbefore]
  cases word with
  | nil =>
      rw [List.nil_append, List.dropWhile_eq_nil_iff.mpr hafter]
      rfl
  | cons c word =>
      rw [List.cons_append, List.dropWhile_cons_of_neg (by simp [h.head c rfl])]
      exact hrest.symm

theorem trimmed_trim (s : List Char) : Trimmed s (trim s) := by
  have htrim : trim s = (s.dropWhile isBlank).rdropWhile isBlank := rfl
  rw [htrim]
  constructor
  · refine ⟨s.takeWhile isBlank, (s.dropWhile isBlank).rtakeWhile isBlank, ?_,
      fun c hc => List.mem_takeWhile_imp hc, fun c hc => List.mem_rtakeWhile_imp hc⟩
    rw [List.append_assoc, List.rdropWhile_append_rtakeWhile, List.takeWhile_append_dropWhile]
  · intro c hc
    obtain ⟨rest, hrest⟩ := List.rdropWhile_prefix isBlank (s.dropWhile isBlank)
    have hhead : (s.dropWhile isBlank).head? = some c := by
      rw [← hrest, List.head?_append, hc]
      rfl
    have hnot := List.head?_dropWhile_not isBlank s
    rw [hhead] at hnot
    simpa using hnot
  · intro c hc
    obtain ⟨hne, rfl⟩ := List.mem_getLast?_eq_getLast hc
    simpa using List.rdropWhile_last_not isBlank _ hne

theorem trimmed_iff {s word : List Char} : Trimmed s word ↔ trim s = word := by
  constructor
  · intro h
    exact h.eq_trim.symm
  · rintro rfl
    exact trimmed_trim s

/-! ## Numbers -/

/-- `s` is `n` in decimal, perhaps with leading zeros. -/
def Numeral (s : List Char) (n : ℕ) : Prop :=
  ∃ digits : List ℕ, digits ≠ [] ∧ (∀ d ∈ digits, d < 10) ∧ s = digits.map Nat.digitChar ∧
    n = Nat.ofDigits 10 digits.reverse

theorem exists_digitChar_of_isDigit {c : Char} (h : c.isDigit = true) :
    ∃ d < 10, Nat.digitChar d = c := by
  have hrange : 48 ≤ c.toNat ∧ c.toNat ≤ 57 := by
    simpa [Char.isDigit, UInt32.le_iff_toNat_le] using h
  refine ⟨c.toNat - 48, by omega, Char.toNat_inj.mp ?_⟩
  rw [Nat.toNat_digitChar_of_lt_ten (by omega)]
  omega

theorem exists_map_digitChar {s : List Char} (h : ∀ c ∈ s, c.isDigit = true) :
    ∃ digits : List ℕ, (∀ d ∈ digits, d < 10) ∧ digits.map Nat.digitChar = s := by
  induction s with
  | nil => exact ⟨[], by simp, rfl⟩
  | cons c s ih =>
      obtain ⟨d, hd, rfl⟩ := exists_digitChar_of_isDigit (h c List.mem_cons_self)
      obtain ⟨digits, hdigits, rfl⟩ := ih fun c hc => h c (List.mem_cons_of_mem _ hc)
      exact ⟨d :: digits, by simpa using ⟨hd, hdigits⟩, rfl⟩

theorem ofDigitChars_map_digitChar {digits : List ℕ} (h : ∀ d ∈ digits, d < 10) :
    Nat.ofDigitChars 10 (digits.map Nat.digitChar) 0 = Nat.ofDigits 10 digits.reverse := by
  rw [Nat.ofDigitChars_eq_foldl, List.foldl_map, Nat.ofDigits_eq_foldr, List.foldr_reverse]
  apply List.foldl_ext
  intro n d hd
  have hvalue : (Nat.digitChar d).toNat - '0'.toNat = d :=
    Nat.toNat_digitChar_sub_48_of_lt_ten (h d hd)
  rw [hvalue, Nat.add_comm]
  rfl

theorem digits?_eq_some_iff {s : List Char} {n : ℕ} :
    Decimal.digits? s = some n ↔ Numeral s n := by
  simp only [Decimal.digits?, Option.ite_none_right_eq_some, Bool.and_eq_true, Bool.not_eq_true',
    List.isEmpty_eq_false_iff, List.all_eq_true, Option.some.injEq]
  constructor
  · rintro ⟨⟨hne, hall⟩, rfl⟩
    obtain ⟨digits, hdigits, rfl⟩ := exists_map_digitChar hall
    exact ⟨digits, by simpa using hne, hdigits, rfl, ofDigitChars_map_digitChar hdigits⟩
  · rintro ⟨digits, hne, hdigits, rfl, rfl⟩
    refine ⟨⟨by simpa using hne, fun c hc => ?_⟩, ofDigitChars_map_digitChar hdigits⟩
    obtain ⟨d, hd, rfl⟩ := List.mem_map.mp hc
    simpa using hdigits d hd

theorem Numeral.unique {s : List Char} {n n' : ℕ} (h : Numeral s n) (h' : Numeral s n') :
    n = n' := by
  rw [← digits?_eq_some_iff] at h h'
  exact Option.some.inj (h.symm.trans h')

theorem numeral_toDigits (n : ℕ) : Numeral (Nat.toDigits 10 n) n :=
  digits?_eq_some_iff.mp (Decimal.digits?_toDigits n)

theorem repr_injective : Function.Injective Nat.repr := by
  intro n n' h
  have hn := numeral_toDigits n
  rw [← Nat.toList_repr, h, Nat.toList_repr] at hn
  exact hn.unique (numeral_toDigits n')

theorem Numeral.ne_nil {s : List Char} {n : ℕ} (h : Numeral s n) : s ≠ [] := by
  obtain ⟨digits, hne, -, rfl, -⟩ := h
  simpa using hne

theorem Numeral.isDigit {s : List Char} {n : ℕ} (h : Numeral s n) : ∀ c ∈ s, c.isDigit = true := by
  obtain ⟨digits, -, hdigits, rfl, -⟩ := h
  intro c hc
  obtain ⟨d, hd, rfl⟩ := List.mem_map.mp hc
  simpa using hdigits d hd

theorem below?_eq_some_iff {bound n : ℕ} {s : List Char} :
    Decimal.below? bound s = some n ↔ Numeral s n ∧ n < bound := by
  rw [Decimal.below?, Option.filter_eq_some_iff, digits?_eq_some_iff, decide_eq_true_iff]

/-- `value` stands for `n`. -/
def WritesNumber (value : String) (n : ℕ) : Prop :=
  ∃ word digits, Trimmed value.toList word ∧ (word = digits ∨ word = '+' :: digits) ∧
    Numeral digits n

theorem numeral_dropPlus_iff {word : List Char} {n : ℕ} :
    Numeral (Decimal.dropPlus word) n ↔
      ∃ digits, (word = digits ∨ word = '+' :: digits) ∧ Numeral digits n := by
  constructor
  · intro h
    unfold Decimal.dropPlus at h
    split at h
    · exact ⟨_, .inr rfl, h⟩
    · exact ⟨_, .inl rfl, h⟩
  · rintro ⟨digits, rfl | rfl, h⟩
    · unfold Decimal.dropPlus
      split
      · exact absurd (h.isDigit '+' List.mem_cons_self) (by decide)
      · exact h
    · exact h

theorem signedBelow?_trim_eq_some_iff {bound n : ℕ} {value : String} :
    Decimal.signedBelow? bound (trim value.toList) = some n ↔
      WritesNumber value n ∧ n < bound := by
  rw [Decimal.signedBelow?, below?_eq_some_iff, numeral_dropPlus_iff, WritesNumber]
  simp only [trimmed_iff]
  constructor
  · rintro ⟨⟨digits, hword, hdigits⟩, hn⟩
    exact ⟨⟨_, digits, rfl, hword, hdigits⟩, hn⟩
  · rintro ⟨⟨_, digits, rfl, hword, hdigits⟩, hn⟩
    exact ⟨⟨digits, hword, hdigits⟩, hn⟩

theorem WritesNumber.unique {value : String} {n n' : ℕ} (h : WritesNumber value n)
    (h' : WritesNumber value n') : n = n' := by
  have hread := signedBelow?_trim_eq_some_iff.mpr ⟨h, Nat.lt_succ_of_le (Nat.le_max_left n n')⟩
  have hread' := signedBelow?_trim_eq_some_iff.mpr ⟨h', Nat.lt_succ_of_le (Nat.le_max_right n n')⟩
  exact Option.some.inj (hread.symm.trans hread')

/-! ## Truth values -/

def truthWord (b : Bool) : String :=
  if b then "true" else "false"

/-- `value` stands for `b`, each letter in either case. -/
def WritesBool (value : String) (b : Bool) : Prop :=
  ∃ word, Trimmed value.toList word ∧
    List.Forall₂ (fun c letter => c = letter ∨ c = letter.toUpper) word (truthWord b).toList

/-- The code of a letter of one case is that of the other, moved by `shift` around the word. -/
theorem toNat_shifted {first last shift : UInt32} (c : Char)
    (hvalid : first ≤ c.val ∧ c.val ≤ last → (c.val + shift).isValidChar) :
    (if h : first ≤ c.val ∧ c.val ≤ last then ⟨c.val + shift, hvalid h⟩ else c : Char).toNat =
      if first.toNat ≤ c.toNat ∧ c.toNat ≤ last.toNat then (c.toNat + shift.toNat) % 2 ^ 32
      else c.toNat := by
  simp only [UInt32.le_iff_toNat_le, Char.toNat_val]
  split
  next => exact UInt32.toNat_add c.val shift
  next => rfl

theorem toNat_toLower (c : Char) :
    c.toLower.toNat = if 65 ≤ c.toNat ∧ c.toNat ≤ 90 then (c.toNat + 32) % 2 ^ 32 else c.toNat :=
  toNat_shifted c _

theorem toNat_toUpper (c : Char) :
    c.toUpper.toNat =
      if 97 ≤ c.toNat ∧ c.toNat ≤ 122 then (c.toNat + (2 ^ 32 - 32)) % 2 ^ 32 else c.toNat :=
  toNat_shifted c _

theorem toLower_eq_iff {c letter : Char} (hletter : letter.isLower = true) :
    c.toLower = letter ↔ c = letter ∨ c = letter.toUpper := by
  have hrange : 97 ≤ letter.toNat ∧ letter.toNat ≤ 122 := by
    unfold Char.isLower at hletter
    simpa [UInt32.le_iff_toNat_le] using hletter
  rw [← Char.toNat_inj, ← Char.toNat_inj, ← Char.toNat_inj, toNat_toLower, toNat_toUpper,
    if_pos hrange]
  split <;> omega

theorem map_toLower_eq_iff {word letters : List Char}
    (hletters : ∀ letter ∈ letters, letter.isLower = true) :
    word.map Char.toLower = letters ↔
      List.Forall₂ (fun c letter => c = letter ∨ c = letter.toUpper) word letters := by
  induction letters generalizing word with
  | nil => rw [List.forall₂_nil_right_iff, List.map_eq_nil_iff]
  | cons letter letters ih =>
      cases word with
      | nil => simp
      | cons c word =>
          rw [List.map_cons, List.cons.injEq, List.forall₂_cons,
            toLower_eq_iff (hletters letter List.mem_cons_self),
            ih fun other hother => hletters other (List.mem_cons_of_mem _ hother)]

theorem writesBool_iff {value : String} {b : Bool} :
    WritesBool value b ↔
      (trim value.toList).map Char.toLower = (truthWord b).toList := by
  have hletters : ∀ letter ∈ (truthWord b).toList, letter.isLower = true := by
    cases b <;> simp [truthWord]
  rw [map_toLower_eq_iff hletters, WritesBool]
  simp only [trimmed_iff, exists_eq_left']

theorem WritesBool.unique {value : String} {b b' : Bool} (h : WritesBool value b)
    (h' : WritesBool value b') : b = b' := by
  rw [writesBool_iff] at h h'
  have hword : truthWord b = truthWord b' := String.toList_inj.mp (h.symm.trans h')
  cases b <;> cases b' <;> first | rfl | exact absurd hword (by decide)

/-! ## Bytes -/

/-- The bytes of a text in UTF-8. -/
def bytes (s : String) : List UInt8 :=
  s.toUTF8.data.toList

theorem bytes_eq_map {s : String} (hs : ∀ c ∈ s.toList, c.toNat < 128) :
    bytes s = s.toList.map fun c => UInt8.ofNat c.toNat := by
  have hdata : bytes s = s.toList.flatMap String.utf8EncodeChar := by
    rw [bytes, String.toUTF8_eq_toByteArray, ← String.utf8Encode_toList, List.utf8Encode]
    simp
  rw [hdata, List.map_eq_flatMap]
  apply List.flatMap_congr
  intro c hc
  exact if_pos (Nat.le_of_lt_succ (hs c hc))

theorem map_ofNat_lt_iff {l l' : List Char} (h : ∀ c ∈ l, c.toNat < 128)
    (h' : ∀ c ∈ l', c.toNat < 128) :
    (l.map fun c => UInt8.ofNat c.toNat) < l'.map (fun c => UInt8.ofNat c.toNat) ↔ l < l' := by
  have htoNat {n : ℕ} (hn : n < 128) : (UInt8.ofNat n).toNat = n :=
    UInt8.toNat_ofNat_of_lt' (hn.trans (by decide))
  induction l generalizing l' with
  | nil => cases l' <;> simp
  | cons c l ih =>
      cases l' with
      | nil => simp
      | cons d l' =>
          obtain ⟨hc, hl⟩ := List.forall_mem_cons.mp h
          obtain ⟨hd, hl'⟩ := List.forall_mem_cons.mp h'
          have hlt : UInt8.ofNat c.toNat < UInt8.ofNat d.toNat ↔ c < d := by
            rw [UInt8.lt_iff_toNat_lt, htoNat hc, htoNat hd]
            rfl
          have heq : UInt8.ofNat c.toNat = UInt8.ofNat d.toNat ↔ c = d := by
            rw [← UInt8.toNat_inj, ← Char.toNat_inj, htoNat hc, htoNat hd]
          have hrest := ih hl hl'
          rw [List.map_cons, List.map_cons, List.cons_lt_cons_iff, List.cons_lt_cons_iff]
          exact or_congr hlt (and_congr heq hrest)

theorem bytes_lt_iff {s t : String} (hs : ∀ c ∈ s.toList, c.toNat < 128)
    (ht : ∀ c ∈ t.toList, c.toNat < 128) : bytes s < bytes t ↔ s < t := by
  rw [bytes_eq_map hs, bytes_eq_map ht, map_ofNat_lt_iff hs ht, String.lt_iff_toList_lt]

end Encounter.Text
