import Encounter.Document.Value
import Encounter.Proofs.Document.Lexing

/-!
# Values as they are written

Things are written one after the other with commas between them, perhaps with one behind the last.
A reader takes a text if, whatever mark and text come behind it, the reader takes its value off the
tokens of the whole and leaves those of what comes behind.  Numerals, names, lists and the fields of
records are taken, and so is a document that is one record.
-/

namespace Encounter.Document

/-- `s` gives the items of a list one after the other. -/
inductive Enumerates {α : Type} (item : α → List Char → Prop) : List α → List Char → Prop
  | nil : Enumerates item [] []
  | last {a : α} {s : List Char} (h : item a s) : Enumerates item [a] s
  | cons {a : α} {as : List α} {s comma rest : List Char} (h : item a s)
      (hcomma : Spaced [','] comma) (hrest : Enumerates item as rest) :
      Enumerates item (a :: as) (s ++ (comma ++ rest))

theorem exists_enumerates {α : Type} {item : α → List Char → Prop} {as : List α}
    (h : ∀ a ∈ as, ∃ s, item a s) : ∃ s, Enumerates item as s := by
  induction as with
  | nil => exact ⟨[], .nil⟩
  | cons a as ih =>
      obtain ⟨⟨s, hs⟩, hothers⟩ := List.forall_mem_cons.mp h
      obtain ⟨rest, hrest⟩ := ih hothers
      exact ⟨s ++ ([','] ++ rest), .cons hs (spaced_self _) hrest⟩

/-- If every item stands for something, all of them do. -/
theorem Enumerates.exists_forall₂ {α β : Type} {item : α → List Char → Prop}
    {item' : β → List Char → Prop} {stands : α → β → Prop}
    (himp : ∀ a s, item a s → ∃ b, stands a b ∧ item' b s) {as : List α} {s : List Char}
    (h : Enumerates item as s) : ∃ bs, List.Forall₂ stands as bs ∧ Enumerates item' bs s := by
  induction h with
  | nil => exact ⟨[], .nil, .nil⟩
  | last ha =>
      obtain ⟨b, hstands, hb⟩ := himp _ _ ha
      exact ⟨[b], .cons hstands .nil, .last hb⟩
  | cons ha hcomma _ ih =>
      obtain ⟨b, hstands, hb⟩ := himp _ _ ha
      obtain ⟨bs, hforall, hbs⟩ := ih
      exact ⟨b :: bs, .cons hstands hforall, .cons hb hcomma hbs⟩

namespace Reader

open Token

variable {α β : Type}

/-- `item` takes `s` for `a`, whatever mark comes behind. -/
def Takes (item : Reader α) (a : α) (s : List Char) : Prop :=
  ∀ c rest left, Parted rest → Lexes rest (.mark c :: left) →
    ∃ tokens, Lexes (s ++ rest) tokens ∧ item tokens = some (a, .mark c :: left) ∧
      (Token.mark c :: left).length < tokens.length

/-! ## Items -/

theorem startsWith_iff {c : Char} {tokens : List Token} :
    startsWith c tokens = true ↔ ∃ rest, tokens = .mark c :: rest := by
  constructor
  · intro h
    unfold startsWith at h
    split at h
    · next d rest =>
        obtain rfl : c = d := by simpa using h
        exact ⟨rest, rfl⟩
    · exact absurd h (by simp)
  · rintro ⟨rest, rfl⟩
    simp [startsWith]

theorem startsWith_eq_false {close : Char} {item : Reader α}
    (hclose : ∀ rest, item (.mark close :: rest) = none) {tokens : List Token} {r : α × List Token}
    (h : item tokens = some r) : startsWith close tokens = false := by
  by_contra hstarts
  obtain ⟨rest, rfl⟩ := startsWith_iff.mp (by simpa using hstarts)
  rw [hclose] at h
  exact Option.some_ne_none _ h.symm

/-- Either there is no item, or the first one is taken off the front. -/
theorem items_cases {close : Char} {item : Reader α} {tokens left : List Token} {as : List α}
    (h : items close item tokens = some (as, left)) :
    as = [] ∧ tokens = .mark close :: left ∨ as ≠ [] ∧ ∃ r, item tokens = some r := by
  by_cases hclosed : startsWith close tokens = true
  · obtain ⟨rest, rfl⟩ := startsWith_iff.mp hclosed
    left
    simpa [items, itemsWithin, startsWith, eq_comm] using h
  · right
    rw [items, itemsWithin, if_neg hclosed] at h
    split at h
    · exact absurd h (by simp)
    · next r hitem =>
        refine ⟨?_, _, hitem⟩
        rintro rfl
        split_ifs at h
        · simp at h
        · simp [Option.map_eq_some_iff] at h

/-- Items are taken up to a closing mark that starts none of them. -/
theorem items_of_enumerates {close : Char} {item : Reader α}
    (hclose : ∀ rest, item (.mark close :: rest) = none) (hmark : isMark close = true)
    (hcomma : close ≠ ',') {as : List α} {s t rest : List Char}
    {left : List Token} (h : Enumerates item.Takes as s) (ht : Spaced [close] t)
    (hrest : Lexes rest left) :
    ∃ tokens, Lexes (s ++ (t ++ rest)) tokens ∧ left.length < tokens.length ∧
      items close item tokens = some (as, left) := by
  have hbehind : Lexes (t ++ rest) (.mark close :: left) := hrest.mark ht hmark
  have hparted : Parted (t ++ rest) := parted_of_spaced ht (parts_of_isMark hmark) rest
  suffices hwithin : ∃ tokens, Lexes (s ++ (t ++ rest)) tokens ∧ left.length < tokens.length ∧
      ∀ steps, tokens.length ≤ steps →
        itemsWithin close item (steps + 1) tokens = some (as, left) by
    obtain ⟨tokens, hlexes, hlength, hitems⟩ := hwithin
    exact ⟨tokens, hlexes, hlength, hitems _ le_rfl⟩
  -- An item takes at least one token, so the steps do not run out before the items do.
  induction h with
  | nil =>
      refine ⟨_, hbehind, Nat.lt_succ_self _, fun steps _ => ?_⟩
      simp [itemsWithin, startsWith]
  | last ha =>
      obtain ⟨tokens, hlexes, hitem, hlength⟩ := ha _ _ _ hparted hbehind
      refine ⟨tokens, hlexes, Nat.lt_of_succ_lt hlength, fun steps _ => ?_⟩
      rw [itemsWithin, startsWith_eq_false hclose hitem, hitem]
      simp [startsWith]
  | @cons a as s comma others ha hseparator _ ih =>
      obtain ⟨others', hlexes', hlength', hothers⟩ := ih
      have hlexesComma : Lexes (comma ++ (others ++ (t ++ rest))) (.mark ',' :: others') :=
        hlexes'.mark hseparator (by decide)
      have hpartedComma : Parted (comma ++ (others ++ (t ++ rest))) :=
        parted_of_spaced hseparator (parts_of_isMark (by decide)) _
      obtain ⟨tokens, hlexes, hitem, hlength⟩ := ha _ _ _ hpartedComma hlexesComma
      have hgrow : others'.length + 1 < tokens.length := hlength
      refine ⟨tokens, by simpa using hlexes, by omega, fun steps hsteps => ?_⟩
      obtain ⟨steps, rfl⟩ : ∃ n, steps = n + 1 := ⟨steps - 1, by omega⟩
      have hrun := hothers steps (by omega)
      rw [itemsWithin, startsWith_eq_false hclose hitem, hitem]
      simp [startsWith, hcomma, hrun]

/-- A field is its name and its value with a colon between them. -/
theorem takes_entry {item : Reader α} {name : String} {a : α} {n colon s : List Char}
    (hname : isName name.toList = true) (hn : Spaced name.toList n) (hcolon : Spaced [':'] colon)
    (h : item.Takes a s) : (entry fieldName item).Takes (name, a) (n ++ (colon ++ s)) := by
  intro c rest left hparted hrest
  obtain ⟨tokens, hlexes, hitem, hlength⟩ := h c rest left hparted hrest
  have hlexesColon : Lexes (colon ++ (s ++ rest)) (.mark ':' :: tokens) :=
    hlexes.mark hcolon (by decide)
  have hpartedColon : Parted (colon ++ (s ++ rest)) :=
    parted_of_spaced hcolon (parts_of_isMark (by decide)) _
  refine ⟨_, by simpa using hlexesColon.word hn hname hpartedColon, ?_, ?_⟩
  · simp [entry, fieldName, startsWith, hitem]
  · simp only [List.length_cons] at hlength ⊢
    omega

end Reader

namespace Value

open Reader Token

variable {ext : Extensions} {below : List (Reader Value)} {levels : ℕ}

theorem inside_readers : inside (readers ext (levels + 2)) = step ext (readers ext levels) :=
  rfl

theorem takes_number {digits s : List Char} {n : ℕ} (hs : Spaced digits s)
    (hdigits : Text.Numeral digits n) (hn : n < 2 ^ 64) :
    (step ext below).Takes (.number digits) s := by
  intro c rest left hparted hrest
  exact ⟨_, hrest.number hs hdigits hn hparted, rfl, Nat.lt_succ_self _⟩

theorem takes_word {name : String} {s : List Char} (hs : Spaced name.toList s)
    (hname : isName name.toList = true) (hsome : name ≠ "Some") :
    (step ext below).Takes (.word { text := name }) s := by
  intro c rest left hparted hrest
  refine ⟨_, hrest.word hs hname hparted, ?_, Nat.lt_succ_self _⟩
  have hkeyword : Word.isKeyword { text := name } "Some" = false := by
    simp [Word.isKeyword, hsome]
  simp [step, hkeyword, opened]

/-- A list is taken two levels above its items. -/
theorem takes_list {items : List Value} {opening s closing : List Char}
    (h : Enumerates (step ext (readers ext levels)).Takes items s)
    (hopening : Spaced ['['] opening) (hclosing : Spaced [']'] closing) :
    (step ext (readers ext (levels + 2))).Takes (.list items) (opening ++ (s ++ closing)) := by
  intro c rest left hparted hrest
  obtain ⟨tokens, hlexes, hlength, hitems⟩ := items_of_enumerates (fun _ => rfl) (by decide)
    (by decide) h hclosing hrest
  refine ⟨.mark '[' :: tokens, ?_, ?_, by simp only [List.length_cons] at hlength ⊢; omega⟩
  · simpa using hlexes.mark hopening (by decide)
  · have hnonempty : (readers ext (levels + 2)).isEmpty = false := rfl
    simp [step, hnonempty, inside_readers, hitems]

/-! ## Records -/

/-- What a bracket with fields in it stands for. -/
def ofFields (name : Option Word) : List (String × Value) → Value
  | [] => .tuple name []
  | field :: fields => .record name (field :: fields)

theorem exists_of_entry_eq_some {item : Reader Value} {tokens : List Token}
    {r : (String × Value) × List Token} (h : entry fieldName item tokens = some r) :
    ∃ word rest, tokens = .word word :: .mark ':' :: rest := by
  cases tokens with
  | nil => simp [entry, fieldName] at h
  | cons token rest =>
      cases token with
      | word word =>
          have hcolon : startsWith ':' rest = true := by
            by_contra hcolon
            simp [entry, fieldName, hcolon] at h
          obtain ⟨others, rfl⟩ := startsWith_iff.mp hcolon
          exact ⟨word, others, rfl⟩
      | _ => simp [entry, fieldName] at h

theorem bracket_of_items {name : Option Word} {tokens left : List Token}
    {fields : List (String × Value)} (hbelow : below.isEmpty = false)
    (h : items ')' (entry fieldName (inside below)) tokens = some (fields, left)) :
    bracket below name tokens = some (ofFields name fields, left) := by
  obtain ⟨rfl, rfl⟩ | ⟨hne, r, hr⟩ := items_cases h
  · simp [bracket, hbelow, items, itemsWithin, startsWith, ofFields]
  · obtain ⟨word, rest, rfl⟩ := exists_of_entry_eq_some hr
    obtain ⟨field, others, rfl⟩ := List.exists_cons_of_ne_nil hne
    simp [bracket, hbelow, h, ofFields]

theorem step_opened {tokens content : List Token} {behind : List Char}
    (hbelow : below.isEmpty = false) (h : opened tokens = some (behind, content)) :
    step ext below tokens = bracket below none content := by
  unfold opened at h
  split at h
  · obtain ⟨-, rfl⟩ := Prod.mk.inj (Option.some.inj h)
    rfl
  · obtain ⟨-, rfl⟩ := Prod.mk.inj (Option.some.inj h)
    simp [step, bracket, hbelow, items, itemsWithin, startsWith]
  · exact absurd h (by simp)

theorem step_named {word : Word} {tokens content : List Token} {behind : List Char}
    (hsome : word.isKeyword "Some" = false) (halone : standsAlone word = false)
    (h : opened tokens = some (behind, content)) :
    step ext below (.word word :: tokens) = bracket below (some word) content := by
  simp [step, hsome, halone, h]

end Value

/-! ## Documents -/

open Reader Token Value

theorem opened_of_lexes {t s : List Char} {tokens : List Token} (h : Lexes s tokens)
    (ht : Spaced ['('] t) :
    ∃ first, Lexes (t ++ s) first ∧ ∃ behind, opened first = some (behind, tokens) := by
  obtain hlexes | ⟨others, rfl, hlexes⟩ := h.opening ht
  · exact ⟨_, hlexes, s, rfl⟩
  · exact ⟨_, hlexes, [')'], rfl⟩

theorem extensions_of_opened {tokens content : List Token} {behind : List Char} {ext : Extensions}
    (h : opened tokens = some (behind, content)) (steps : ℕ) :
    Extensions.read ext (steps + 1) tokens = some (ext, tokens) := by
  unfold opened at h
  split at h
  · rfl
  · rfl
  · exact absurd h (by simp)

/-- `s` is a record of a type: perhaps the name of the type, then the fields in a bracket. -/
def IsRecord {α : Type} (typeName : String) (field : α → List Char → Prop) (fields : List α)
    (s : List Char) : Prop :=
  ∃ named opening body closing gap, (named = [] ∨ Spaced typeName.toList named) ∧
    Spaced ['('] opening ∧ Enumerates field fields body ∧ Spaced [')'] closing ∧ Gap.IsGap gap ∧
      s = named ++ (opening ++ (body ++ (closing ++ gap)))

theorem exists_isRecord {α : Type} {typeName : String} {field : α → List Char → Prop}
    {fields : List α} (h : ∀ a ∈ fields, ∃ s, field a s) : ∃ s, IsRecord typeName field fields s := by
  obtain ⟨body, hbody⟩ := exists_enumerates h
  exact ⟨_, [], ['('], body, [')'], [], .inl rfl, spaced_self _, hbody, spaced_self _, .nil, rfl⟩

theorem IsRecord.exists_forall₂ {α β : Type} {typeName : String} {field : α → List Char → Prop}
    {field' : β → List Char → Prop} {stands : α → β → Prop}
    (himp : ∀ a s, field a s → ∃ b, stands a b ∧ field' b s) {as : List α} {s : List Char}
    (h : IsRecord typeName field as s) :
    ∃ bs, List.Forall₂ stands as bs ∧ IsRecord typeName field' bs s := by
  obtain ⟨named, opening, body, closing, gap, hnamed, hopening, hbody, hclosing, hgap, hs⟩ := h
  obtain ⟨bs, hforall, hbs⟩ := hbody.exists_forall₂ himp
  exact ⟨bs, hforall, named, opening, body, closing, gap, hnamed, hopening, hbs, hclosing, hgap, hs⟩

/-- A document that is one record is read as a bracket with its fields. -/
theorem read?_of_isRecord {typeName document : String} {fields : List (String × Value)}
    (h : IsRecord typeName (entry fieldName (step {} (readers {} (depthLimit - 2)))).Takes fields
      document.toList)
    (htype : isName typeName.toList = true) (hsome : typeName ≠ "Some")
    (halone : standsAlone { text := typeName } = false) :
    ∃ name, (name = none ∨ name = some { text := typeName }) ∧
      read? document = some ({}, ofFields name fields) := by
  obtain ⟨named, opening, body, closing, gap, hnamed, hopening, hbody, hclosing, hgap, htext⟩ := h
  have hbelow : (readers {} depthLimit).isEmpty = false := rfl
  obtain ⟨inner, hinner, -, hitems⟩ := items_of_enumerates (fun _ => rfl) (by decide) (by decide)
    hbody hclosing (lexes_gap hgap)
  obtain ⟨first, hfirst, behind, hopened⟩ := opened_of_lexes hinner hopening
  have hbracket (name : Option Word) :
      bracket (readers {} depthLimit) name inner = some (ofFields name fields, []) :=
    bracket_of_items hbelow hitems
  obtain rfl | hspaced := hnamed
  · refine ⟨none, .inl rfl, ?_⟩
    have htokens : ofText? document.toList = some first := by
      rw [htext]
      exact hfirst.ofText?_eq
    have hread : Value.read {} depthLimit first = some (ofFields none fields, []) :=
      (step_opened hbelow hopened).trans (hbracket none)
    simp only [read?, htokens, extensions_of_opened hopened, hread]
  · refine ⟨some { text := typeName }, .inr rfl, ?_⟩
    have hparted : Parted (opening ++ (body ++ (closing ++ gap))) :=
      parted_of_spaced hopening (by decide +kernel) _
    have htokens : ofText? document.toList = some (.word { text := typeName } :: first) := by
      rw [htext]
      exact (hfirst.word hspaced htype hparted).ofText?_eq
    have hkeyword : Word.isKeyword { text := typeName } "Some" = false := by
      simp [Word.isKeyword, hsome]
    have hread : Value.read {} depthLimit (.word { text := typeName } :: first) =
        some (ofFields (some { text := typeName }) fields, []) :=
      (step_named hkeyword halone hopened).trans (hbracket _)
    have hextensions (steps : ℕ) : Extensions.read {} (steps + 1)
        (.word { text := typeName } :: first) = some ({}, .word { text := typeName } :: first) :=
      rfl
    simp only [read?, htokens, hextensions, hread]

end Encounter.Document
