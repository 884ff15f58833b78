import Encounter.Config.Document
import Encounter.Proofs.Document.Written

/-!
# Configurations written as documents

A configuration can be written as a record, with its parameters in any order and without those that
have their defaults.  Any such document is read as the configuration that it was written from, which
then has to obey the rule for configurations.  The kind of the boss has no default, so a document
without it cannot be read.
-/

namespace Encounter.Config

open Document

/-- What a record of a configuration has a field for. -/
inductive Parameter where
  | aura
  | boss
  | ignoreBoss
  | blacklist
  | killOrder
  deriving DecidableEq, Repr

namespace Parameter

def name : Parameter → String
  | .aura => "aura_id"
  | .boss => "boss_id"
  | .ignoreBoss => "ignore_boss"
  | .blacklist => "blacklist_mobs"
  | .killOrder => "kill_order"

theorem name_injective : Function.Injective name := by
  intro p q h
  cases p <;> cases q <;> first | rfl | exact absurd h (by decide)

theorem isName_name (p : Parameter) : Token.isName p.name.toList = true := by
  cases p <;> decide +kernel

end Parameter

/-- Whether a parameter is what it is taken for where a record leaves it out. -/
def IsDefault (c : Config) : Parameter → Prop
  | .aura => c.aura = ⟨0⟩
  | .boss => False
  | .ignoreBoss => c.ignoreBoss = false
  | .blacklist => c.blacklist = []
  | .killOrder => c.killOrder = []

def WritesNumeral (n : ℕ) (s : List Char) : Prop :=
  ∃ digits, Text.Numeral digits n ∧ Spaced digits s

def WritesKinds (kinds : List Kind) (s : List Char) : Prop :=
  ∃ opening items closing, Spaced ['['] opening ∧
    Enumerates (fun kind => WritesNumeral kind.val.toNat) kinds items ∧ Spaced [']'] closing ∧
      s = opening ++ (items ++ closing)

def WritesValue (c : Config) : Parameter → List Char → Prop
  | .aura => WritesNumeral c.aura.val.toNat
  | .boss => WritesNumeral c.boss.val.toNat
  | .ignoreBoss => Spaced (Text.truthWord c.ignoreBoss).toList
  | .blacklist => WritesKinds c.blacklist
  | .killOrder => WritesKinds c.killOrder

def WritesField (c : Config) (p : Parameter) (s : List Char) : Prop :=
  ∃ name colon value, Spaced p.name.toList name ∧ Spaced [':'] colon ∧ c.WritesValue p value ∧
    s = name ++ (colon ++ value)

/-- `document` is a record of `c` with the fields `present`, in that order.  What it leaves out is at
its default, the boss apart. -/
structure Documented (c : Config) (present : List Parameter) (document : String) : Prop where
  record : IsRecord "EncounterConfig" c.WritesField present document.toList
  once : present.Nodup
  absent : ∀ p, p ∉ present → p = .boss ∨ c.IsDefault p

/-! ## Writing -/

theorem exists_writesNumeral (n : ℕ) : ∃ s, WritesNumeral n s :=
  ⟨_, _, Text.numeral_toDigits n, spaced_self _⟩

theorem exists_writesKinds (kinds : List Kind) : ∃ s, WritesKinds kinds s := by
  obtain ⟨items, hitems⟩ := exists_enumerates
    fun kind (_ : kind ∈ kinds) => exists_writesNumeral kind.val.toNat
  exact ⟨_, ['['], items, [']'], spaced_self _, hitems, spaced_self _, rfl⟩

theorem exists_writesField (c : Config) (p : Parameter) : ∃ s, c.WritesField p s := by
  have hvalue : ∃ s, c.WritesValue p s := by
    cases p with
    | aura => exact exists_writesNumeral _
    | boss => exact exists_writesNumeral _
    | ignoreBoss => exact ⟨_, spaced_self _⟩
    | blacklist => exact exists_writesKinds _
    | killOrder => exact exists_writesKinds _
  obtain ⟨value, hvalue⟩ := hvalue
  exact ⟨_, p.name.toList, [':'], value, spaced_self _, spaced_self _, hvalue, rfl⟩

/-- A configuration can be written with its parameters in any order, and without any of those that
have their defaults. -/
theorem exists_documented {c : Config} {present : List Parameter} (honce : present.Nodup)
    (habsent : ∀ p, p ∉ present → p = .boss ∨ c.IsDefault p) :
    ∃ document, Documented c present document := by
  obtain ⟨s, hs⟩ : ∃ s, IsRecord "EncounterConfig" c.WritesField present s :=
    exists_isRecord fun p _ => exists_writesField c p
  exact ⟨String.ofList s, by rwa [String.toList_ofList], honce, habsent⟩

/-! ## Values -/

section Values

variable {ext : Extensions} {below : List (Reader Value)} {s : List Char}

theorem exists_word32_of_writesNumeral {n : UInt32} (h : WritesNumeral n.toNat s) :
    ∃ value, Decoder.word32 ext value = some n ∧ (Value.step ext below).Takes value s := by
  obtain ⟨digits, hdigits, hs⟩ := h
  have hn : n.toNat < 2 ^ 32 := UInt32.toNat_lt n
  have hwide : n.toNat < 2 ^ 64 := hn.trans_le (Nat.pow_le_pow_right (by decide) (by decide))
  refine ⟨.number digits, ?_, Value.takes_number hs hdigits hwide⟩
  simp [Decoder.word32, Number.unsigned?_eq_some hdigits hn]

theorem exists_kind_of_writesNumeral {kind : Kind} (h : WritesNumeral kind.val.toNat s) :
    ∃ value, Decoder.kind ext value = some kind ∧ (Value.step ext below).Takes value s := by
  obtain ⟨value, hvalue, htakes⟩ := exists_word32_of_writesNumeral h
  exact ⟨value, by rw [Decoder.kind, hvalue]; rfl, htakes⟩

theorem exists_aura_of_writesNumeral {aura : Aura} (h : WritesNumeral aura.val.toNat s) :
    ∃ value, Decoder.aura ext value = some aura ∧ (Value.step ext below).Takes value s := by
  obtain ⟨value, hvalue, htakes⟩ := exists_word32_of_writesNumeral h
  exact ⟨value, by rw [Decoder.aura, hvalue]; rfl, htakes⟩

theorem exists_bool_of_spaced {b : Bool} (h : Spaced (Text.truthWord b).toList s) :
    ∃ value, Decoder.bool ext value = some b ∧ (Value.step ext below).Takes value s := by
  have hname : Token.isName (Text.truthWord b).toList = true := by
    cases b <;> decide +kernel
  have hsome : Text.truthWord b ≠ "Some" := by
    cases b <;> decide
  refine ⟨_, ?_, Value.takes_word h hname hsome⟩
  cases b <;> rfl

theorem mapM_eq_some_of_forall₂ {α β : Type} {f : β → Option α} {as : List α} {bs : List β}
    (h : List.Forall₂ (fun a b => f b = some a) as bs) : bs.mapM f = some as := by
  induction h with
  | nil => rfl
  | cons hab _ ih => rw [List.mapM_cons, hab, ih]; rfl

theorem exists_kinds_of_writesKinds {kinds : List Kind} {levels : ℕ} (h : WritesKinds kinds s) :
    ∃ value, Decoder.list Decoder.kind ext value = some kinds ∧
      (Value.step ext (Value.readers ext (levels + 2))).Takes value s := by
  obtain ⟨opening, items, closing, hopening, hitems, hclosing, rfl⟩ := h
  have hkind (kind : Kind) (s : List Char) (hs : WritesNumeral kind.val.toNat s) :
      ∃ value, Decoder.kind ext value = some kind ∧
        (Value.step ext (Value.readers ext levels)).Takes value s :=
    exists_kind_of_writesNumeral hs
  obtain ⟨values, hvalues, htakes⟩ := hitems.exists_forall₂ hkind
  exact ⟨.list values, mapM_eq_some_of_forall₂ hvalues,
    Value.takes_list htakes hopening hclosing⟩

end Values

/-! ## Fields -/

def Decodes (c : Config) : Parameter → Value → Prop
  | .aura, value => Decoder.aura {} value = some c.aura
  | .boss, value => Decoder.kind {} value = some c.boss
  | .ignoreBoss, value => Decoder.bool {} value = some c.ignoreBoss
  | .blacklist, value => Decoder.list Decoder.kind {} value = some c.blacklist
  | .killOrder, value => Decoder.list Decoder.kind {} value = some c.killOrder

/-- `entry` is the field of a parameter of `c`. -/
def IsFieldOf (c : Config) (p : Parameter) (entry : String × Value) : Prop :=
  entry.1 = p.name ∧ c.Decodes p entry.2

theorem exists_value_of_writesValue {c : Config} {p : Parameter} {s : List Char}
    (h : c.WritesValue p s) :
    ∃ value, c.Decodes p value ∧
      (Value.step {} (Value.readers {} (depthLimit - 2))).Takes value s := by
  cases p with
  | aura => exact exists_aura_of_writesNumeral h
  | boss => exact exists_kind_of_writesNumeral h
  | ignoreBoss => exact exists_bool_of_spaced h
  | blacklist => exact exists_kinds_of_writesKinds h
  | killOrder => exact exists_kinds_of_writesKinds h

theorem exists_entry_of_writesField {c : Config} (p : Parameter) (s : List Char)
    (h : c.WritesField p s) :
    ∃ entry, c.IsFieldOf p entry ∧
      (Reader.entry Reader.fieldName
        (Value.step {} (Value.readers {} (depthLimit - 2)))).Takes entry s := by
  obtain ⟨name, colon, text, hname, hcolon, htext, rfl⟩ := h
  obtain ⟨value, hvalue, htakes⟩ := exists_value_of_writesValue htext
  exact ⟨(p.name, value), ⟨rfl, hvalue⟩, Reader.takes_entry p.isName_name hname hcolon htakes⟩

section Fields

variable {c : Config} {p : Parameter} {present : List Parameter} {entries : List (String × Value)}

theorem filter_eq_nil (h : List.Forall₂ c.IsFieldOf present entries) (hp : p ∉ present) :
    entries.filter (·.1 == p.name) = [] := by
  induction h with
  | nil => rfl
  | @cons q entry _ _ hentry _ ih =>
      obtain ⟨hne, hrest⟩ : p ≠ q ∧ p ∉ _ := by simpa using hp
      have hother : (entry.1 == p.name) = false := by
        rw [hentry.1, beq_eq_false_iff_ne]
        exact fun hname => hne (Parameter.name_injective hname).symm
      rw [List.filter_cons_of_neg (by simp [hother]), ih hrest]

theorem filter_eq_singleton (h : List.Forall₂ c.IsFieldOf present entries)
    (honce : present.Nodup) (hp : p ∈ present) :
    ∃ value, c.Decodes p value ∧ entries.filter (·.1 == p.name) = [(p.name, value)] := by
  induction h with
  | nil => exact absurd hp List.not_mem_nil
  | @cons q entry _ _ hentry hrest ih =>
      obtain ⟨hq, honce'⟩ := List.nodup_cons.mp honce
      by_cases hpq : p = q
      · subst hpq
        obtain ⟨name, value⟩ := entry
        obtain ⟨rfl, hvalue⟩ := hentry
        refine ⟨value, hvalue, ?_⟩
        rw [List.filter_cons_of_pos (by simp), filter_eq_nil hrest hq]
      · have hother : (entry.1 == p.name) = false := by
          rw [hentry.1, beq_eq_false_iff_ne]
          exact fun hname => hpq (Parameter.name_injective hname).symm
        rw [List.filter_cons_of_neg (by simp [hother])]
        exact ih honce' ((List.mem_cons.mp hp).resolve_left hpq)

theorem optionally_eq_some {α : Type} {item : Decoder α} {a default : α}
    (h : List.Forall₂ c.IsFieldOf present entries) (honce : present.Nodup)
    (hitem : ∀ value, c.Decodes p value → item {} value = some a)
    (hdefault : p ∉ present → a = default) :
    Decoder.optionally {} entries p.name item default = some a := by
  by_cases hp : p ∈ present
  · obtain ⟨value, hvalue, hfilter⟩ := filter_eq_singleton h honce hp
    rw [Decoder.optionally, hfilter]
    exact hitem value hvalue
  · rw [Decoder.optionally, filter_eq_nil h hp, hdefault hp]

theorem required_eq_some {α : Type} {item : Decoder α} {a : α}
    (h : List.Forall₂ c.IsFieldOf present entries) (honce : present.Nodup)
    (hitem : ∀ value, c.Decodes p value → item {} value = some a) (hp : p ∈ present) :
    Decoder.required {} entries p.name item = some a := by
  obtain ⟨value, hvalue, hfilter⟩ := filter_eq_singleton h honce hp
  rw [Decoder.required, hfilter]
  exact hitem value hvalue

theorem required_eq_none {α : Type} {item : Decoder α}
    (h : List.Forall₂ c.IsFieldOf present entries) (hp : p ∉ present) :
    Decoder.required {} entries p.name item = none := by
  rw [Decoder.required, filter_eq_nil h hp]

end Fields

theorem fields_ofFields {typeName : String} {name : Option Word}
    (hname : name = none ∨ name = some { text := typeName }) (entries : List (String × Value)) :
    Decoder.fields typeName {} (Value.ofFields name entries) = some entries := by
  have hadmits : Decoder.admitsName typeName {} name = true := by
    obtain rfl | rfl := hname
    · rfl
    · simp [Decoder.admitsName]
  cases entries <;> simp [Value.ofFields, Decoder.fields, hadmits]

/-- A bracket with the fields of a configuration stands for it, unless it leaves out the boss. -/
theorem config_ofFields {c : Config} {present : List Parameter} {document : String}
    {name : Option Word} {entries : List (String × Value)} (h : Documented c present document)
    (hname : name = none ∨ name = some { text := "EncounterConfig" })
    (hentries : List.Forall₂ c.IsFieldOf present entries) :
    Decoder.config {} (Value.ofFields name entries) =
      if Parameter.boss ∈ present then some c else none := by
  have habsent (p : Parameter) (hne : p ≠ .boss) (hp : p ∉ present) : c.IsDefault p :=
    (h.absent p hp).resolve_left hne
  have haura : Decoder.optionally {} entries "aura_id" Decoder.aura ⟨0⟩ = some c.aura :=
    optionally_eq_some (p := .aura) hentries h.once (fun _ => id) (habsent .aura (by decide))
  have hignore : Decoder.optionally {} entries "ignore_boss" Decoder.bool false =
      some c.ignoreBoss :=
    optionally_eq_some (p := .ignoreBoss) hentries h.once (fun _ => id)
      (habsent .ignoreBoss (by decide))
  have hblacklist : Decoder.optionally {} entries "blacklist_mobs" (Decoder.list Decoder.kind) [] =
      some c.blacklist :=
    optionally_eq_some (p := .blacklist) hentries h.once (fun _ => id)
      (habsent .blacklist (by decide))
  have hkillOrder : Decoder.optionally {} entries "kill_order" (Decoder.list Decoder.kind) [] =
      some c.killOrder :=
    optionally_eq_some (p := .killOrder) hentries h.once (fun _ => id)
      (habsent .killOrder (by decide))
  by_cases hboss : Parameter.boss ∈ present
  · have hrequired : Decoder.required {} entries "boss_id" Decoder.kind = some c.boss :=
      required_eq_some (p := .boss) hentries h.once (fun _ => id) hboss
    simp [Decoder.config, fields_ofFields hname, haura, hrequired, hignore, hblacklist, hkillOrder,
      hboss]
  · have hrequired : Decoder.required {} entries "boss_id" Decoder.kind = none :=
      required_eq_none (p := .boss) hentries hboss
    simp [Decoder.config, fields_ofFields hname, haura, hrequired, hboss]

theorem describedBy?_of_documented {c : Config} {present : List Parameter} {document : String}
    (h : Documented c present document) :
    describedBy? document = if Parameter.boss ∈ present then some c else none := by
  obtain ⟨entries, hentries, hrecord⟩ := h.record.exists_forall₂ exists_entry_of_writesField
  obtain ⟨name, hname, hread⟩ :=
    read?_of_isRecord hrecord (by decide +kernel) (by decide) (by decide +kernel)
  rw [describedBy?, hread, Option.bind_some]
  exact config_ofFields h hname hentries

/-- A document with a boss in it was written from one configuration only. -/
theorem Documented.unique {c c' : Config} {present present' : List Parameter} {document : String}
    (h : Documented c present document) (h' : Documented c' present' document)
    (hboss : Parameter.boss ∈ present) : c' = c := by
  have hread := describedBy?_of_documented h
  rw [if_pos hboss, describedBy?_of_documented h', Option.ite_none_right_eq_some] at hread
  exact Option.some.inj hread.2

/-- A document that a configuration was written to is read as that configuration. -/
theorem ofDocument_of_documented {c : Config} {present : List Parameter} {document : String}
    (h : Documented c present document) :
    (Parameter.boss ∈ present → ofDocument document = c.validate) ∧
      (Parameter.boss ∉ present → ofDocument document = .error .unreadableDocument) := by
  rw [ofDocument, describedBy?_of_documented h]
  constructor
  · intro hboss
    rw [if_pos hboss]
  · intro hboss
    rw [if_neg hboss]

/-- A ranked list behind a name, a comment, commas behind both lists and a leading zero. -/
theorem ofDocument_of_documented_ranked :
    Documented { boss := ⟨100⟩, killOrder := [⟨200⟩, ⟨201⟩] } [.killOrder, .boss]
        "EncounterConfig( kill_order: [200, 0201,], // by rank\n boss_id: 100)" ∧
      Parameter.boss ∈ [Parameter.killOrder, .boss] ∧
        ofDocument "EncounterConfig( kill_order: [200, 0201,], // by rank\n boss_id: 100)" =
          .ok { boss := ⟨100⟩, killOrder := [⟨200⟩, ⟨201⟩] } := by
  have hspace (text : List Char) : Spaced text (' ' :: text) := ⟨[' '], .blank rfl .nil, rfl⟩
  have hcomment : Gap.IsGap " // by rank\n ".toList :=
    .blank rfl (@Gap.IsGap.line " by rank".toList [' '] (by decide) (.blank rfl .nil))
  have hnumeral {digits : List Char} {n : ℕ} (h : Text.Decimal.digits? digits = some n) :
      Text.Numeral digits n :=
    Text.digits?_eq_some_iff.mp h
  have hitems : Enumerates (fun kind : Kind => WritesNumeral kind.val.toNat) [⟨200⟩, ⟨201⟩]
      ("200".toList ++ ([','] ++ (" 0201".toList ++ ([','] ++ [])))) :=
    .cons ⟨_, hnumeral rfl, spaced_self _⟩ (spaced_self _)
      (.cons ⟨_, hnumeral rfl, hspace "0201".toList⟩ (spaced_self _) .nil)
  have hdocumented : Documented { boss := ⟨100⟩, killOrder := [⟨200⟩, ⟨201⟩] } [.killOrder, .boss]
      "EncounterConfig( kill_order: [200, 0201,], // by rank\n boss_id: 100)" :=
    { record :=
        ⟨_, _, _, _, _, .inr (spaced_self _), spaced_self _,
          .cons ⟨_, _, _, hspace "kill_order".toList, spaced_self _,
              ⟨_, _, _, hspace ['['], hitems, spaced_self _, rfl⟩, rfl⟩ (spaced_self _)
            (.last ⟨_, _, _, ⟨_, hcomment, rfl⟩, spaced_self _,
              ⟨_, hnumeral rfl, hspace "100".toList⟩, rfl⟩),
          spaced_self _, .nil, rfl⟩
      once := by decide
      absent := by
        intro p hp
        cases p with
        | aura => exact .inr rfl
        | boss => exact .inl rfl
        | ignoreBoss => exact .inr rfl
        | blacklist => exact .inr rfl
        | killOrder => exact absurd hp (by decide) }
  have hboss : Parameter.boss ∈ [Parameter.killOrder, .boss] := by decide
  exact ⟨hdocumented, hboss, (ofDocument_of_documented hdocumented).1 hboss⟩

end Encounter.Config
