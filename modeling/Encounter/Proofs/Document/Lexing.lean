import Encounter.Document.Token
import Encounter.Proofs.Document.Gaps
import Encounter.Proofs.Document.Numerals

/-!
# Texts and their tokens

A text that starts with a gap and a token is read as that token and the tokens of what is left.  A
mark may be followed by anything; a name or a numeral has to be followed by something that does not
go on with it, which gaps and marks do not.
-/

namespace Encounter.Document

/-- `s` is `text` with a gap in front of it. -/
def Spaced (text s : List Char) : Prop :=
  ∃ gap, Gap.IsGap gap ∧ s = gap ++ text

theorem spaced_self (text : List Char) : Spaced text text :=
  ⟨[], .nil, rfl⟩

namespace Token

/-- `s` is read as `tokens`. -/
def Lexes (s : List Char) (tokens : List Token) : Prop :=
  ∀ steps, s.length < steps → readAll steps s = some tokens

/-- No name and no literal goes on with `c`. -/
def parts (c : Char) : Bool :=
  !Text.Identifier.isContinue c && !Number.isContinue c

/-- No name and no literal goes on with what `s` starts with. -/
def Parted (s : List Char) : Prop :=
  ∀ c ∈ s.head?, parts c = true

theorem Lexes.ofText?_eq {s : List Char} {tokens : List Token} (h : Lexes s tokens) :
    ofText? s = some tokens :=
  h (s.length + 1) (Nat.lt_succ_self _)

/-! ## What parts tokens -/

theorem parts_of_isBlank {c : Char} (h : Gap.isBlank c = true) : parts c = true := by
  simp only [Gap.isBlank, Bool.or_eq_true, beq_iff_eq, or_assoc] at h
  rcases h with rfl | rfl | rfl | rfl | rfl | rfl | rfl | rfl | rfl | rfl | rfl <;> decide +kernel

theorem parts_of_isMark {c : Char} (h : isMark c = true) : parts c = true := by
  simp only [isMark, List.contains_iff_mem, List.mem_cons, List.not_mem_nil, or_false] at h
  rcases h with rfl | rfl | rfl | rfl | rfl | rfl | rfl | rfl | rfl | rfl <;> decide +kernel

theorem not_isStart_of_parts {c : Char} (h : parts c = true) :
    Text.Identifier.isStart c = false := by
  by_contra hstart
  have hcontinue : Text.Identifier.isContinue c = true :=
    Text.Identifier.isContinue_of_isStart (by simpa using hstart)
  simp [parts, hcontinue] at h

theorem Parted.head {s : List Char} (h : Parted s) {c : Char} (hc : c ∈ s.head?) :
    Text.Identifier.isContinue c = false ∧ Number.isContinue c = false := by
  simpa [parts] using h c hc

theorem parted_cons {c : Char} (h : parts c = true) (s : List Char) : Parted (c :: s) := by
  intro d hd
  obtain rfl := Option.some.inj hd
  exact h

/-- A gap parts what is in front of it from what is behind it. -/
theorem parted_append {gap s : List Char} (hgap : Gap.IsGap gap) (hs : Parted s) :
    Parted (gap ++ s) := by
  cases hgap with
  | nil => exact hs
  | blank hc _ => exact parted_cons (parts_of_isBlank hc) _
  | line _ _ => exact parted_cons (by decide +kernel) _
  | block _ _ => exact parted_cons (by decide +kernel) _

theorem parted_of_spaced {c : Char} {t : List Char} (h : Spaced [c] t) (hc : parts c = true)
    (s : List Char) : Parted (t ++ s) := by
  obtain ⟨gap, hgap, rfl⟩ := h
  rw [List.append_assoc]
  exact parted_append hgap (parted_cons hc s)

/-! ## One token after the other -/

theorem lexes_gap {gap : List Char} (h : Gap.IsGap gap) : Lexes gap [] := by
  intro steps hsteps
  obtain ⟨steps, rfl⟩ := Nat.exists_eq_succ_of_ne_zero (Nat.ne_zero_of_lt hsteps)
  have hdrop : Gap.dropWithin steps (gap ++ []) = some [] :=
    h.dropWithin_append (by simp) (by simpa using Nat.le_of_lt_succ hsteps)
  rw [List.append_nil] at hdrop
  rw [readAll, hdrop]

/-- A token behind a gap is read first. -/
theorem Lexes.cons {gap rest left : List Char} {c : Char} {token : Token} {tokens : List Token}
    (h : Lexes left tokens) (hgap : Gap.IsGap gap) (hc : Gap.endsGap c = true)
    (hread : read? c rest = some (token, left)) (hlength : left.length ≤ rest.length) :
    Lexes (gap ++ c :: rest) (token :: tokens) := by
  intro steps hsteps
  obtain ⟨steps, rfl⟩ := Nat.exists_eq_succ_of_ne_zero (Nat.ne_zero_of_lt hsteps)
  have hdrop : Gap.dropWithin steps (gap ++ c :: rest) = some (c :: rest) := by
    refine hgap.dropWithin_append (fun d hd => ?_) (Nat.le_of_lt_succ hsteps)
    obtain rfl := Option.some.inj hd
    exact hc
  have hleft : left.length < steps := by
    rw [List.length_append, List.length_cons] at hsteps
    omega
  simp only [readAll, hdrop, hread, h steps hleft, Option.map_some]

theorem endsGap_of_isMark {c : Char} (h : isMark c = true) : Gap.endsGap c = true := by
  simp only [isMark, List.contains_iff_mem, List.mem_cons, List.not_mem_nil, or_false] at h
  rcases h with rfl | rfl | rfl | rfl | rfl | rfl | rfl | rfl | rfl | rfl <;> rfl

theorem read?_of_isMark {c : Char} (h : isMark c = true) (s : List Char) :
    read? c s = some (.mark c, s) := by
  simp only [isMark, List.contains_iff_mem, List.mem_cons, List.not_mem_nil, or_false] at h
  rcases h with rfl | rfl | rfl | rfl | rfl | rfl | rfl | rfl | rfl | rfl <;> rfl

theorem Lexes.mark {c : Char} {t s : List Char} {tokens : List Token} (h : Lexes s tokens)
    (ht : Spaced [c] t) (hc : isMark c = true) : Lexes (t ++ s) (.mark c :: tokens) := by
  obtain ⟨gap, hgap, rfl⟩ := ht
  rw [List.append_assoc]
  exact h.cons hgap (endsGap_of_isMark hc) (read?_of_isMark hc s) le_rfl

/-- What stands behind a mark is read as what was read behind it. -/
theorem Lexes.of_mark {c : Char} {s : List Char} {tokens : List Token}
    (h : Lexes (c :: s) tokens) (hc : isMark c = true) :
    ∃ others, tokens = .mark c :: others ∧ Lexes s others := by
  have hdrop (steps : ℕ) : Gap.dropWithin (steps + 1) (c :: s) = some (c :: s) := by
    have hends : Gap.isBlank c = false ∧ c ≠ '/' := by
      simpa [Gap.endsGap] using endsGap_of_isMark hc
    rw [Gap.dropWithin, hends.1, if_neg (by simp), if_neg hends.2]
  have hread (steps : ℕ) (hsteps : s.length < steps) :
      (readAll steps s).map (Token.mark c :: ·) = some tokens := by
    have hwhole := h (steps + 1) (by simpa using hsteps)
    obtain ⟨steps, rfl⟩ := Nat.exists_eq_succ_of_ne_zero (Nat.ne_zero_of_lt hsteps)
    simpa only [readAll, hdrop, read?_of_isMark hc] using hwhole
  obtain ⟨others, -, rfl⟩ := Option.map_eq_some_iff.mp (hread (s.length + 1) (Nat.lt_succ_self _))
  refine ⟨others, rfl, fun steps hsteps => ?_⟩
  obtain ⟨read, hread', heq⟩ := Option.map_eq_some_iff.mp (hread steps hsteps)
  rw [hread', (List.cons.inj heq).2]

/-! ## Names and numerals -/

/-- Whether a text is read as a word and as nothing else. -/
def isName : List Char → Bool
  | [] => false
  | c :: rest =>
      Text.Identifier.isStart c && rest.all Text.Identifier.isContinue && !Number.isStart c &&
        !Number.isNumber (c :: rest) && c != 'r' && (c != 'b' || rest.head?.any (· != 'r'))

theorem endsGap_of_isStart {c : Char} (h : Text.Identifier.isStart c = true) :
    Gap.endsGap c = true := by
  have hblank : Gap.isBlank c = false := by
    by_contra hblank
    rw [not_isStart_of_parts (parts_of_isBlank (by simpa using hblank))] at h
    exact Bool.false_ne_true h
  have hslash : c ≠ '/' := ne_of_apply_ne Text.Identifier.isStart (by rw [h]; decide)
  simp [Gap.endsGap, hblank, hslash]

theorem plainWord_append {c : Char} {name s : List Char}
    (hname : ∀ d ∈ name, Text.Identifier.isContinue d = true) (hs : Parted s) :
    plainWord c (name ++ s) = ({ text := String.ofList (c :: name) }, s) := by
  have hhead : ∀ d ∈ s.head?, Text.Identifier.isContinue d = false := fun d hd => (hs.head hd).1
  have htake : (name ++ s).takeWhile Text.Identifier.isContinue = name := by
    rw [List.takeWhile_append_of_pos hname]
    cases s with
    | nil => simp
    | cons d s => rw [List.takeWhile_cons_of_neg (by simp [hhead d rfl]), List.append_nil]
  rw [plainWord, htake, Text.dropWhile_append_of_head hname hhead]

theorem bound?_name {c : Char} {name s : List Char} (h : isName (c :: name) = true)
    (hs : Parted s) : bound? (c :: (name ++ s)) = none := by
  simp only [isName, Bool.and_eq_true, Bool.not_eq_true', List.all_eq_true, bne_iff_ne,
    Bool.or_eq_true] at h
  obtain ⟨⟨⟨⟨⟨hstart, hcontinue⟩, hdigit⟩, hnumber⟩, -⟩, hb⟩ := h
  unfold bound?
  split
  · rfl
  · next heq =>
      obtain ⟨rfl, htail⟩ := List.cons.inj heq
      have hsecond := hb.resolve_left (by simp)
      cases name with
      | nil => simp at hsecond
      | cons d name =>
          have hcontinue' := hcontinue d List.mem_cons_self
          rw [(List.cons.inj htail).1] at hcontinue'
          exact absurd hcontinue' (by decide)
  · next heq =>
      obtain ⟨rfl, rfl⟩ := List.cons.inj heq
      have hword : Word.isNumber { text := String.ofList (c :: name) } = false := by
        simp [Word.isNumber, hnumber]
      simp only [hdigit, hstart, plainWord_append hcontinue hs, hword, Bool.false_eq_true, if_false,
        if_true]

theorem afterB_name {d : Char} {name s : List Char} (hd : d ≠ 'r')
    (hname : ∀ e ∈ d :: name, Text.Identifier.isContinue e = true) (hs : Parted s) :
    afterB (d :: (name ++ s)) = some (.word { text := String.ofList ('b' :: d :: name) }, s) := by
  have hplain := plainWord_append (c := 'b') hname hs
  have hd' : Text.Identifier.isContinue d = true := hname d List.mem_cons_self
  have hne {e : Char} (he : Text.Identifier.isContinue e = false) : d ≠ e :=
    ne_of_apply_ne Text.Identifier.isContinue (by simp [hd', he])
  unfold afterB
  split
  · exact absurd (List.cons.inj ‹_›).1 (hne (by decide))
  · exact absurd (List.cons.inj ‹_›).1 (hne (by decide))
  · exact absurd (List.cons.inj ‹_›).1 hd
  · exact absurd (List.cons.inj ‹_›).1 hd
  · rw [← List.cons_append, hplain]

theorem read?_name {c : Char} {name s : List Char} (h : isName (c :: name) = true)
    (hs : Parted s) :
    read? c (name ++ s) = some (.word { text := String.ofList (c :: name) }, s) := by
  have hbound := bound?_name h hs
  simp only [isName, Bool.and_eq_true, Bool.not_eq_true', List.all_eq_true, bne_iff_ne,
    Bool.or_eq_true] at h
  obtain ⟨⟨⟨⟨⟨hstart, hcontinue⟩, -⟩, -⟩, hr⟩, hb⟩ := h
  have hne {d : Char} (hd : Text.Identifier.isStart d = false) : c ≠ d :=
    ne_of_apply_ne Text.Identifier.isStart (by simp [hstart, hd])
  have hmark : isMark c = false := by
    by_contra hmark
    rw [not_isStart_of_parts (parts_of_isMark (by simpa using hmark))] at hstart
    exact Bool.false_ne_true hstart
  have hother : readOther? c (name ++ s) =
      some (.word { text := String.ofList (c :: name) }, s) := by
    rw [readOther?, if_neg (hne (by decide)), hmark, if_neg (by simp),
      if_neg fun hpoint => hne (by decide) hpoint.1, if_neg (hne (by decide)),
      if_neg (hne (by decide)), if_neg hr]
    by_cases hc : c = 'b'
    · subst hc
      have hsecond := hb.resolve_left (by simp)
      cases name with
      | nil => simp at hsecond
      | cons d name => exact afterB_name (by simpa using hsecond) hcontinue hs
    · rw [if_neg hc, hstart, plainWord_append hcontinue hs]
      rfl
  rw [read?, hbound]
  exact hother

theorem Lexes.word {name : String} {t s : List Char} {tokens : List Token} (h : Lexes s tokens)
    (ht : Spaced name.toList t) (hname : isName name.toList = true) (hs : Parted s) :
    Lexes (t ++ s) (.word { text := name } :: tokens) := by
  obtain ⟨gap, hgap, rfl⟩ := ht
  have htext : String.ofList name.toList = name := String.ofList_toList
  cases hchars : name.toList with
  | nil => simp [hchars, isName] at hname
  | cons c rest =>
      rw [hchars] at hname htext
      have hstart : Text.Identifier.isStart c = true := by
        simp only [isName, Bool.and_eq_true] at hname
        exact hname.1.1.1.1.1
      have hread := read?_name hname hs
      rw [htext] at hread
      rw [List.append_assoc, List.cons_append]
      exact h.cons hgap (endsGap_of_isStart hstart) hread (by simp)

theorem read?_numeral {c : Char} {digits s : List Char} {n : ℕ}
    (h : Text.Numeral (c :: digits) n) (hn : n < 2 ^ 64) (hs : Parted s) :
    read? c (digits ++ s) = some (.number (c :: digits), s) := by
  have hc : c.isDigit = true := h.isDigit c List.mem_cons_self
  have hhead : ∀ d ∈ s.head?, Number.isContinue d = false := fun d hd => (hs.head hd).2
  have hsplit : Number.split (c :: (digits ++ s)) = (c :: digits, s) := by
    rw [← List.cons_append]
    exact Number.split_append h.isDigit hhead
  have hb : c ≠ 'b' := ne_of_apply_ne Char.isDigit (by rw [hc]; decide)
  have hbound : bound? (c :: (digits ++ s)) = some (.number (c :: digits), s) := by
    rw [bound?.eq_3 _ _ fun _ heq _ => hb heq]
    simp only [Number.isStart_of_isDigit hc, hsplit, Number.isNumber_of_numeral h hn, if_true]
  rw [read?, hbound]
  split
  · next heq =>
      obtain ⟨-, hdots⟩ := Prod.mk.inj (Option.some.inj heq)
      have hpoint := hhead '.' (by rw [hdots]; rfl)
      exact absurd hpoint (by decide)
  · next heq => exact heq.symm
  · next heq => exact absurd heq (by simp)

theorem endsGap_of_isDigit {c : Char} (h : c.isDigit = true) : Gap.endsGap c = true := by
  obtain ⟨d, hd, rfl⟩ := Text.exists_digitChar_of_isDigit h
  interval_cases d <;> rfl

theorem Lexes.number {digits t s : List Char} {tokens : List Token} {n : ℕ} (h : Lexes s tokens)
    (ht : Spaced digits t) (hdigits : Text.Numeral digits n) (hn : n < 2 ^ 64) (hs : Parted s) :
    Lexes (t ++ s) (.number digits :: tokens) := by
  obtain ⟨gap, hgap, rfl⟩ := ht
  obtain ⟨c, rest, rfl⟩ := List.exists_cons_of_ne_nil hdigits.ne_nil
  have hc : c.isDigit = true := hdigits.isDigit c List.mem_cons_self
  rw [List.append_assoc, List.cons_append]
  exact h.cons hgap (endsGap_of_isDigit hc) (read?_numeral hdigits hn hs) (by simp)

/-! ## Round brackets -/

/-- An opening bracket is one token, or one together with the closing one that follows it. -/
theorem Lexes.opening {t s : List Char} {tokens : List Token} (h : Lexes s tokens)
    (ht : Spaced ['('] t) :
    Lexes (t ++ s) (.opening s :: tokens) ∨
      ∃ others, tokens = .mark ')' :: others ∧ Lexes (t ++ s) (.unit :: others) := by
  obtain ⟨gap, hgap, rfl⟩ := ht
  rw [List.append_assoc]
  by_cases hunit : s.head? = some ')'
  · obtain ⟨left, rfl⟩ : ∃ left, s = ')' :: left := by
      cases s with
      | nil => simp at hunit
      | cons c left => exact ⟨left, by rw [Option.some.inj hunit]⟩
    obtain ⟨others, rfl, hothers⟩ := h.of_mark (by decide)
    exact .inr ⟨others, rfl, hothers.cons hgap (by decide) rfl (by simp)⟩
  · have hread : read? '(' s = some (.opening s, s) := by
      have hbound : bound? ('(' :: s) = none := rfl
      rw [read?, hbound]
      exact if_neg hunit
    exact .inl (h.cons hgap (by decide) hread le_rfl)

end Token

end Encounter.Document
