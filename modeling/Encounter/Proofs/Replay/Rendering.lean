import Encounter.Proofs.Document.Numerals
import Encounter.Proofs.Text.Parting
import Encounter.Replay.Report

/-!
# Rendered ticks can be told apart

Numbers may be wider than their columns, identities have no width at all, and the same column holds
a status or an outcome.  Still every part of a line is delimited by what follows it, so a line comes
from one tick in one format only.  No line has a break in it.
-/

namespace Encounter

open Text (Delimited IsPrintable inWord)

/-! ## Identities, readings and parts of the routine -/

theorem Guid.toNat_injective : Function.Injective fun guid : Guid => guid.val.toNat := by
  rintro ⟨val⟩ ⟨val'⟩ h
  exact congrArg Guid.mk (UInt64.toNat_inj.mp h)

theorem Timestamp.toNat_injective : Function.Injective fun now : Timestamp => now.millis.toNat := by
  rintro ⟨millis⟩ ⟨millis'⟩ h
  exact congrArg Timestamp.mk (UInt64.toNat_inj.mp h)

theorem Guid.text_injective : Function.Injective Guid.text := by
  intro guid guid' h
  have hlists := congrArg String.toList h
  simp only [Guid.text, String.toList_append, String.toList_ofList,
    List.append_cancel_left_eq] at hlists
  have hread (n : ℕ) : Document.Number.digitsOnto? 16 0 ((Nat.toDigits 16 n).map Char.toUpper) =
      some n := by
    have hdigits := Document.Number.digitsOnto?_toDigits_append n []
    rwa [List.append_nil] at hdigits
  have hsame : some guid.val.toNat = some guid'.val.toNat := by
    rw [← hread, ← hread, hlists]
  exact Guid.toNat_injective (Option.some.inj hsame)

theorem Guid.isPrintable_text (guid : Guid) : IsPrintable guid.text := by
  have hdigits : IsPrintable
      (String.ofList ((Nat.toDigits 16 guid.val.toNat).map Char.toUpper)) := by
    intro c hc
    rw [String.toList_ofList] at hc
    obtain ⟨digit, hdigit, rfl⟩ := List.mem_map.mp hc
    obtain ⟨d, hd, rfl⟩ :=
      Document.Number.exists_digitChar_of_mem_toDigits (by decide) hdigit
    interval_cases d <;> decide
  exact Text.isPrintable_append.mpr ⟨by simp [IsPrintable], hdigits⟩

theorem RoutinePart.label_injective : Function.Injective RoutinePart.label := by
  intro part part' h
  cases part <;> cases part' <;> simp_all [label]

theorem Status.inWord_of_mem_label (status : Status) :
    ∀ c ∈ status.label.toList, inWord c = true := by
  cases status <;> simp [label, inWord]

/-! ## Decisions -/

namespace Decision

variable {decision decision' : Decision}

/-- What stands behind the label in a description. -/
def aside : Decision → String
  | .exclude guid | .engagePriority guid | .engageBoss guid => " " ++ guid.text
  | .routine part => " " ++ part.label
  | .complete | .flushExclusions => ""

theorem description_eq (decision : Decision) :
    decision.description = decision.label ++ decision.aside := by
  cases decision <;> simp [description, aside, String.append_assoc]

theorem inWord_of_mem_label (decision : Decision) :
    ∀ c ∈ decision.label.toList, inWord c = true := by
  cases decision <;> simp [label, inWord]

theorem inWord_head?_aside (decision : Decision) :
    ∀ c ∈ decision.aside.toList.head?, inWord c = false := by
  cases decision <;> simp [aside, inWord]

theorem eq_of_label_of_aside (hlabel : decision.label = decision'.label)
    (haside : decision.aside = decision'.aside) : decision = decision' := by
  cases decision <;> cases decision' <;>
    simp_all [label, aside, Guid.text_injective.eq_iff, RoutinePart.label_injective.eq_iff]

theorem isPrintable_description (decision : Decision) : IsPrintable decision.description := by
  have hblank : IsPrintable " " := by
    simp [IsPrintable]
  have haside : IsPrintable decision.aside := by
    cases decision with
    | exclude guid | engagePriority guid | engageBoss guid =>
        exact Text.isPrintable_append.mpr ⟨hblank, guid.isPrintable_text⟩
    | routine part =>
        refine Text.isPrintable_append.mpr ⟨hblank, ?_⟩
        cases part <;> simp [IsPrintable, RoutinePart.label]
    | complete | flushExclusions => simp [IsPrintable, aside]
  rw [description_eq, Text.isPrintable_append]
  exact ⟨Text.isPrintable_of_inWord decision.inWord_of_mem_label, haside⟩

theorem description_injective : Function.Injective description := by
  intro decision decision' h
  have hlists := congrArg String.toList h
  rw [description_eq, description_eq, String.toList_append, String.toList_append] at hlists
  obtain ⟨hlabel, haside⟩ := Text.eq_and_eq_of_append_eq decision.inWord_of_mem_label
    decision.inWord_head?_aside decision'.inWord_of_mem_label decision'.inWord_head?_aside hlists
  exact eq_of_label_of_aside (String.toList_injective hlabel) (String.toList_injective haside)

theorem partName_injective : Function.Injective partName := by
  intro part part' h
  cases part <;> cases part' <;> simp_all [partName]

theorem inWord_of_mem_name (decision : Decision) :
    ∀ c ∈ decision.name.toList, inWord c = true := by
  cases decision <;> simp [name, inWord]

theorem eq_of_name_of_argument (hname : decision.name = decision'.name)
    (hargument : decision.argument? = decision'.argument?) : decision = decision' := by
  cases decision <;> cases decision' <;>
    simp_all [name, argument?, Guid.toNat_injective.eq_iff, Text.repr_injective.eq_iff,
      partName_injective.eq_iff]

theorem json_of_argument {argument : String} (h : decision.argument? = some argument) :
    decision.json = "\x7b\"" ++ (decision.name ++ ("\":" ++ (argument ++ "\x7d"))) := by
  simp only [json, h, String.append_assoc]

theorem json_of_no_argument (h : decision.argument? = none) :
    decision.json = "\"" ++ (decision.name ++ "\"") := by
  simp only [json, h, String.append_assoc]

theorem json_injective : Function.Injective json := by
  intro decision decision' h
  have hlists := congrArg String.toList h
  cases hargument : decision.argument? with
  | none =>
      rw [json_of_no_argument hargument] at hlists
      cases hargument' : decision'.argument? with
      | none =>
          rw [json_of_no_argument hargument'] at hlists
          simp only [String.toList_append, List.append_cancel_left_eq,
            List.append_cancel_right_eq] at hlists
          rw [← hargument'] at hargument
          exact eq_of_name_of_argument (String.toList_injective hlists) hargument
      | some argument' =>
          rw [json_of_argument hargument'] at hlists
          simp at hlists
  | some argument =>
      rw [json_of_argument hargument] at hlists
      cases hargument' : decision'.argument? with
      | none =>
          rw [json_of_no_argument hargument'] at hlists
          simp at hlists
      | some argument' =>
          rw [json_of_argument hargument'] at hlists
          simp only [String.toList_append, List.append_cancel_left_eq] at hlists
          obtain ⟨hname, hrest⟩ := Text.eq_and_eq_of_append_eq decision.inWord_of_mem_name
            (by simp [inWord]) decision'.inWord_of_mem_name (by simp [inWord]) hlists
          simp only [List.append_cancel_left_eq, List.append_cancel_right_eq] at hrest
          rw [String.toList_injective hrest, ← hargument'] at hargument
          exact eq_of_name_of_argument (String.toList_injective hname) hargument

theorem isPrintable_of_argument {argument : String} (h : decision.argument? = some argument) :
    IsPrintable argument := by
  cases decision with
  | exclude guid | engagePriority guid | engageBoss guid =>
      obtain rfl := Option.some.inj h
      exact Text.isPrintable_repr guid.val.toNat
  | routine part =>
      obtain rfl := Option.some.inj h
      cases part <;> simp [IsPrintable, partName]
  | complete | flushExclusions => cases h

theorem isPrintable_json (decision : Decision) : IsPrintable decision.json := by
  have hname := Text.isPrintable_of_inWord decision.inWord_of_mem_name
  cases hargument : decision.argument? with
  | none =>
      simp only [json_of_no_argument hargument, Text.isPrintable_append, hname]
      simp [IsPrintable]
  | some argument =>
      simp only [json_of_argument hargument, Text.isPrintable_append, hname,
        isPrintable_of_argument hargument]
      simp [IsPrintable]

end Decision

/-! ## Reports -/

namespace TickResult

variable {report report' : TickResult}

/-- Nothing of a report is lost that its outcome, its status and its decision do not tell. -/
theorem eq_of_parts (houtcome : report.outcome = report'.outcome)
    (hstatus : report.status? = report'.status?)
    (hdecision : report.decision? = report'.decision?) : report = report' := by
  cases report <;> cases report' <;> simp_all [outcome, status?, decision?]

theorem inWord_of_mem_outcome (report : TickResult) :
    ∀ c ∈ report.outcome.toList, inWord c = true := by
  cases report <;> simp [outcome, inWord]

end TickResult

namespace ReplayTick

/-! ## Columns -/

theorem toList_padRight (width : ℕ) (s : String) :
    (padRight width s).toList = s.toList ++ List.replicate (width - s.length) ' ' := by
  rw [padRight, String.toList_append, String.toList_ofList]

theorem toList_padLeft (width : ℕ) (s : String) :
    (padLeft width s).toList = List.replicate (width - s.length) ' ' ++ s.toList := by
  rw [padLeft, String.toList_append, String.toList_ofList]

variable {α : Type} {p : Char → Bool} {write : α → String}

theorem delimited_padRight (hwrite : Delimited p write) (hblank : p ' ' = false) (width : ℕ) :
    Delimited p fun a => padRight width (write a) := by
  intro a b s t hs ht h
  have hpadded {s : List Char} (hs : ∀ c ∈ s.head?, p c = false) (n : ℕ) :
      ∀ c ∈ (List.replicate n ' ' ++ s).head?, p c = false := by
    cases n with
    | zero => exact hs
    | succ n => simpa [List.replicate_succ] using hblank
  rw [toList_padRight, toList_padRight, List.append_assoc, List.append_assoc] at h
  -- the blanks behind follow from the width, so they are known with what is padded
  obtain ⟨rfl, hrest⟩ := hwrite (hpadded hs _) (hpadded ht _) h
  exact ⟨rfl, List.append_cancel_left hrest⟩

theorem delimited_padLeft (hwrite : Delimited p write)
    (hhead : ∀ a, ∃ c ∈ (write a).toList.head?, c ≠ ' ') (width : ℕ) :
    Delimited p fun a => padLeft width (write a) := by
  intro a b s t hs ht h
  -- the blanks in front are as many as they are, and end where the first character shows
  have hshown (a : α) (s : List Char) :
      ∀ c ∈ ((write a).toList ++ s).head?, (c == ' ') = false := by
    obtain ⟨c, hc, hne⟩ := hhead a
    rw [List.head?_append, hc]
    simpa using hne
  have hblanks (n : ℕ) : ∀ c ∈ List.replicate n ' ', (c == ' ') = true := by
    intro c hc
    rw [List.eq_of_mem_replicate hc]
    rfl
  rw [toList_padLeft, toList_padLeft, List.append_assoc, List.append_assoc] at h
  obtain ⟨-, hrest⟩ :=
    Text.eq_and_eq_of_append_eq (hblanks _) (hshown a s) (hblanks _) (hshown b t) h
  exact hwrite hs ht hrest

theorem exists_head?_repr (n : ℕ) : ∃ c ∈ n.repr.toList.head?, c ≠ ' ' := by
  rw [Nat.toList_repr]
  obtain ⟨c, rest, hdigits⟩ := List.exists_cons_of_ne_nil (Nat.toDigits_ne_nil (b := 10) (n := n))
  refine ⟨c, by rw [hdigits]; rfl, ?_⟩
  rintro rfl
  have hdigit : (' ').isDigit = true :=
    Nat.isDigit_of_mem_toDigits (b := 10) (n := n) (by decide) (by decide) (by simp [hdigits])
  exact absurd hdigit (by decide)

theorem delimited_tick : Delimited Char.isDigit fun tick : ℕ => padRight 3 tick.repr :=
  delimited_padRight Text.delimited_repr rfl 3

theorem delimited_now :
    Delimited Char.isDigit fun now : Timestamp => padLeft 7 now.millis.toNat.repr :=
  (delimited_padLeft Text.delimited_repr exists_head?_repr 7).comp Timestamp.toNat_injective

/-! ## Summaries -/

/-- What a summary says of the decision behind the status. -/
def deed : Option Decision → String
  | some decision => decision.description
  | none => "(no action)"

theorem deed_injective : Function.Injective deed := by
  rw [Option.injective_iff]
  refine ⟨Decision.description_injective, ?_⟩
  rintro ⟨decision, h⟩
  have hhead := congrArg (fun s => s.toList.head?) h
  cases decision <;> simp [deed, Decision.description_eq, Decision.label] at hhead

theorem toList_gist_evaluated (status : Status) (decision : Option Decision) :
    (gist (.evaluated status decision)).toList = status.label.toList ++
      (List.replicate (7 - status.label.length) ' ' ++
        ("  ".toList ++ (deed decision).toList)) := by
  cases decision <;> simp [gist, deed, toList_padRight]

theorem inWord_head?_columns (n : ℕ) (s : List Char) :
    ∀ c ∈ (List.replicate n ' ' ++ ("  ".toList ++ s)).head?, inWord c = false := by
  cases n <;> simp [List.replicate_succ, inWord]

theorem gist_evaluated_ne (status : Status) (decision : Option Decision) {word : String}
    (hword : ∀ c ∈ word.toList, inWord c = true) (hne : status.label ≠ word) :
    gist (.evaluated status decision) ≠ word := by
  intro h
  have hlists : (gist (.evaluated status decision)).toList = word.toList ++ [] := by
    rw [h, List.append_nil]
  rw [toList_gist_evaluated] at hlists
  obtain ⟨hsame, -⟩ := Text.eq_and_eq_of_append_eq status.inWord_of_mem_label
    (inWord_head?_columns _ _) hword (by simp) hlists
  exact hne (String.toList_injective hsame)

theorem gist_of_no_status {report : TickResult} (h : report.status? = none) :
    gist report = report.outcome := by
  cases report <;> simp_all [gist, TickResult.status?]

theorem gist_injective : Function.Injective gist := by
  have hother (status : Status) (decision : Option Decision) {report : TickResult}
      (hstatus : report.status? = none) : gist (.evaluated status decision) ≠ gist report := by
    have hne : status.label ≠ report.outcome := by
      cases status <;> cases report <;>
        simp_all [Status.label, TickResult.outcome, TickResult.status?]
    rw [gist_of_no_status hstatus]
    exact gist_evaluated_ne status decision report.inWord_of_mem_outcome hne
  intro report report' h
  cases report with
  | evaluated status decision =>
      cases report' with
      | evaluated status' decision' =>
          have hlists := congrArg String.toList h
          rw [toList_gist_evaluated, toList_gist_evaluated] at hlists
          obtain ⟨hlabel, hrest⟩ := Text.eq_and_eq_of_append_eq status.inWord_of_mem_label
            (inWord_head?_columns _ _) status'.inWord_of_mem_label (inWord_head?_columns _ _) hlists
          -- with the same label the columns are equally wide, whatever their width
          obtain rfl := Status.label_injective (String.toList_injective hlabel)
          simp only [List.append_cancel_left_eq] at hrest
          rw [deed_injective (String.toList_injective hrest)]
      | deferred | finished => exact absurd h (hother status decision rfl)
  | deferred =>
      cases report' with
      | evaluated status decision => exact absurd h.symm (hother status decision rfl)
      | deferred => rfl
      | finished => simp [gist, TickResult.outcome] at h
  | finished =>
      cases report' with
      | evaluated status decision => exact absurd h.symm (hother status decision rfl)
      | deferred => simp [gist, TickResult.outcome] at h
      | finished => rfl

theorem summary_eq (r : ReplayTick) :
    r.summary = "#" ++ (padRight 3 r.tick.repr ++ (" " ++
      (padLeft 7 r.now.millis.toNat.repr ++ ("ms  " ++ gist r.report)))) := by
  simp only [summary, head, String.append_assoc]
  rfl

theorem summary_injective : Function.Injective summary := by
  intro r r' h
  have hlists := congrArg String.toList h
  simp only [summary_eq, String.toList_append, List.append_cancel_left_eq] at hlists
  obtain ⟨htick, hrest⟩ := delimited_tick (by simp) (by simp) hlists
  obtain ⟨hnow, hgist⟩ := delimited_now (by simp) (by simp) (List.append_cancel_left hrest)
  have hreport := gist_injective (String.toList_injective (List.append_cancel_left hgist))
  cases r
  cases r'
  simp_all

/-! ## Objects of JSON -/

theorem delimited_statusJson : Delimited (· != ',') statusJson := by
  apply Text.delimited_of_injective
  · intro status status' h
    rcases status with _ | _ | _ | _ <;> rcases status' with _ | _ | _ | _ <;>
      simp_all [statusJson, Status.label]
  · intro status
    rcases status with _ | _ | _ | _ <;> simp [statusJson, Status.label]

theorem decisionJson_injective : Function.Injective decisionJson := by
  rw [Option.injective_iff]
  refine ⟨Decision.json_injective, ?_⟩
  rintro ⟨decision, h⟩
  have hhead := congrArg (fun s => s.toList.head?) h
  cases decision <;> simp [decisionJson, Decision.json, Decision.argument?] at hhead

theorem json_eq (r : ReplayTick) :
    r.json = "\x7b\"tick\":" ++ (r.tick.repr ++ (",\"now\":" ++ (r.now.millis.toNat.repr ++
      (",\"outcome\":\"" ++ (r.report.outcome ++ ("\",\"status\":" ++
        (statusJson r.report.status? ++ (",\"decision\":" ++
          (decisionJson r.report.decision? ++ "\x7d"))))))))) := by
  unfold json
  simp only [String.append_assoc]

theorem json_injective : Function.Injective json := by
  intro r r' h
  have hlists := congrArg String.toList h
  simp only [json_eq, String.toList_append, List.append_cancel_left_eq] at hlists
  -- each field in turn is delimited by the key of the next
  obtain ⟨htick, hrest⟩ := Text.delimited_repr (by simp) (by simp) hlists
  obtain ⟨hnow, hrest⟩ := Text.delimited_repr.comp Timestamp.toNat_injective (by simp) (by simp)
    (List.append_cancel_left hrest)
  obtain ⟨houtcome, hrest⟩ := Text.eq_and_eq_of_append_eq r.report.inWord_of_mem_outcome
    (by simp [inWord]) r'.report.inWord_of_mem_outcome (by simp [inWord])
    (List.append_cancel_left hrest)
  obtain ⟨hstatus, hrest⟩ := delimited_statusJson (by simp) (by simp)
    (List.append_cancel_left hrest)
  have hdecision := decisionJson_injective
    (String.toList_injective (List.append_cancel_right (List.append_cancel_left hrest)))
  have hreport := TickResult.eq_of_parts (String.toList_injective houtcome) hstatus hdecision
  cases r
  cases r'
  simp_all

/-! ## Lines -/

theorem render_ne_render (r r' : ReplayTick) : r.render .summary ≠ r'.render .json := by
  intro h
  have hhead := congrArg (fun s => s.toList.head?) h
  simp [render, summary_eq, json_eq] at hhead

/-- A line tells the format that it is in and all of the tick that it is about. -/
theorem render_eq_iff {format format' : Format} {r r' : ReplayTick} :
    r.render format = r'.render format' ↔ format = format' ∧ r = r' := by
  constructor
  · intro h
    cases format with
    | summary =>
        cases format' with
        | summary => exact ⟨rfl, summary_injective h⟩
        | json => exact absurd h (r.render_ne_render r')
    | json =>
        cases format' with
        | summary => exact absurd h.symm (r'.render_ne_render r)
        | json => exact ⟨rfl, json_injective h⟩
  · rintro ⟨rfl, rfl⟩
    rfl

theorem isPrintable_blanks (n : ℕ) : IsPrintable (String.ofList (List.replicate n ' ')) := by
  intro c hc
  rw [String.toList_ofList] at hc
  rw [List.eq_of_mem_replicate hc]
  decide

theorem isPrintable_gist (report : TickResult) : IsPrintable (gist report) := by
  cases report with
  | evaluated status decision =>
      have hlabel := Text.isPrintable_of_inWord status.inWord_of_mem_label
      have hpadded := isPrintable_blanks (7 - status.label.length)
      cases decision with
      | none =>
          simp only [gist, padRight, Text.isPrintable_append, hlabel, hpadded]
          simp [IsPrintable]
      | some decision =>
          simp only [gist, padRight, Text.isPrintable_append, hlabel, hpadded,
            decision.isPrintable_description]
          simp [IsPrintable]
  | deferred => exact Text.isPrintable_of_inWord (TickResult.inWord_of_mem_outcome .deferred)
  | finished => exact Text.isPrintable_of_inWord (TickResult.inWord_of_mem_outcome .finished)

theorem isPrintable_summary (r : ReplayTick) : IsPrintable r.summary := by
  simp only [summary_eq, padRight, padLeft, Text.isPrintable_append, isPrintable_blanks,
    Text.isPrintable_repr, isPrintable_gist]
  simp [IsPrintable]

theorem isPrintable_json (r : ReplayTick) : IsPrintable r.json := by
  have houtcome := Text.isPrintable_of_inWord r.report.inWord_of_mem_outcome
  have hstatus : IsPrintable (statusJson r.report.status?) := by
    rcases r.report.status? with _ | _ | _ | _ <;> simp [IsPrintable, statusJson, Status.label]
  have hdecision : IsPrintable (decisionJson r.report.decision?) := by
    cases r.report.decision? with
    | none => simp [IsPrintable, decisionJson]
    | some decision => exact decision.isPrintable_json
  simp only [json_eq, Text.isPrintable_append, Text.isPrintable_repr, houtcome, hstatus, hdecision]
  simp [IsPrintable]

theorem isPrintable_render (r : ReplayTick) (format : Format) : IsPrintable (r.render format) := by
  cases format with
  | summary => exact r.isPrintable_summary
  | json => exact r.isPrintable_json

end ReplayTick

end Encounter
