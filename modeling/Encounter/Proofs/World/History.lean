import Encounter.Proofs.World.Expiry
import Mathlib.Data.Set.Card

/-!
# Exclusions told by their history

What a set excludes after any additions and flushes is told here by these alone.  Of each identity
the last addition since the last flush counts, and it counts until a later addition, of whatever
identity, is made at a reading at which it has expired.  A set that never drops an expired entry
would exclude the same identities at every reading that no addition has run ahead of.
-/

namespace Encounter.Exclusions

inductive Edit where
  | add (guid : Guid) (span : Span) (now : Timestamp)
  | flush
  deriving DecidableEq, Repr

namespace Edit

/-- The set that an edit leaves. -/
def apply (s : Exclusions) : Edit → Exclusions
  | .add guid span now => (s.add guid span now).2
  | .flush => s.flush

/-- The set that an edit leaves if expired entries are kept. -/
def applyKeeping (s : Exclusions) : Edit → Exclusions
  | .add guid span now => s.insert guid (now.after span)
  | .flush => empty

/-- Neither flushes nor adds `guid`. -/
def Spares (guid : Guid) (edit : Edit) : Prop :=
  edit ≠ .flush ∧ ∀ span now, edit ≠ .add guid span now

end Edit

/-- The set that `edits` lead to from an empty one. -/
def ofEdits (edits : List Edit) : Exclusions :=
  edits.foldl Edit.apply empty

/-- The set that `edits` lead to if expired entries are kept. -/
def ofEditsKeeping (edits : List Edit) : Exclusions :=
  edits.foldl Edit.applyKeeping empty

/-- The last addition of `guid` since the last flush was until `expiry`; `since` are the edits made
after it. -/
def LastAdded (edits : List Edit) (guid : Guid) (expiry : Timestamp) (since : List Edit) : Prop :=
  ∃ before span now, edits = before ++ .add guid span now :: since ∧
    expiry = now.after span ∧ ∀ edit ∈ since, edit.Spares guid

/-- Every addition in `edits` is made before `expiry`. -/
def AddsBefore (edits : List Edit) (expiry : Timestamp) : Prop :=
  ∀ guid span now, .add guid span now ∈ edits → now < expiry

/-- Every addition since the last flush is made at `now` or before. -/
def NoneAhead (edits : List Edit) (now : Timestamp) : Prop :=
  ∀ before after guid span added, edits = before ++ .add guid span added :: after →
    .flush ∉ after → added ≤ now

variable {edits since : List Edit} {edit : Edit} {guid other : Guid} {span : Span}
variable {expiry now : Timestamp}

/-! ## The last addition -/

theorem Edit.not_spares_add : ¬ (Edit.add guid span now).Spares guid :=
  fun h => h.2 span now rfl

theorem Edit.not_spares_flush : ¬ Edit.flush.Spares guid :=
  fun h => h.1 rfl

theorem Edit.spares_add_of_ne (hne : guid ≠ other) : (Edit.add other span now).Spares guid := by
  refine ⟨nofun, fun span' now' heq => ?_⟩
  injection heq with hguid
  exact hne hguid.symm

theorem not_lastAdded_nil : ¬ LastAdded [] guid expiry since := by
  rintro ⟨before, span, now, hedits, -⟩
  simp at hedits

theorem lastAdded_concat :
    LastAdded (edits ++ [edit]) guid expiry since ↔
      (∃ span now, edit = .add guid span now ∧ expiry = now.after span ∧ since = []) ∨
        edit.Spares guid ∧ ∃ between, since = between ++ [edit] ∧
          LastAdded edits guid expiry between := by
  constructor
  · rintro ⟨before, span, now, hedits, hexpiry, hsince⟩
    rcases since.eq_nil_or_concat' with rfl | ⟨between, last, rfl⟩
    · have hlast := (List.append_inj' hedits rfl).2
      exact .inl ⟨span, now, List.singleton_inj.mp hlast, hexpiry, rfl⟩
    · rw [← List.cons_append, ← List.append_assoc] at hedits
      obtain ⟨hinit, hlast⟩ := List.append_inj' hedits rfl
      obtain rfl := List.singleton_inj.mp hlast
      refine .inr ⟨hsince edit (by simp), between, rfl, before, span, now, hinit, hexpiry, ?_⟩
      intro later hlater
      exact hsince later (List.mem_append_left _ hlater)
  · rintro (⟨span, now, rfl, rfl, rfl⟩ | ⟨hspares, between, rfl, before, span, now, rfl, rfl, hall⟩)
    · exact ⟨edits, span, now, rfl, rfl, by simp⟩
    · refine ⟨before, span, now, by simp, rfl, fun later hlater => ?_⟩
      rcases List.mem_append.mp hlater with hlater | hlater
      · exact hall later hlater
      · rw [List.mem_singleton.mp hlater]
        exact hspares

theorem not_lastAdded_concat_flush : ¬ LastAdded (edits ++ [.flush]) guid expiry since := by
  rw [lastAdded_concat]
  rintro (⟨span, now, hadd, -⟩ | ⟨hspares, -⟩)
  · cases hadd
  · exact Edit.not_spares_flush hspares

theorem lastAdded_concat_self :
    LastAdded (edits ++ [.add guid span now]) guid expiry since ↔
      expiry = now.after span ∧ since = [] := by
  rw [lastAdded_concat]
  constructor
  · rintro (⟨span', now', hadd, hexpiry, hsince⟩ | ⟨hspares, -⟩)
    · injection hadd with _ hspan hnow
      rw [hspan, hnow]
      exact ⟨hexpiry, hsince⟩
    · exact absurd hspares Edit.not_spares_add
  · rintro ⟨hexpiry, hsince⟩
    exact .inl ⟨span, now, rfl, hexpiry, hsince⟩

theorem lastAdded_concat_other (hne : guid ≠ other) :
    LastAdded (edits ++ [.add other span now]) guid expiry since ↔
      ∃ between, since = between ++ [.add other span now] ∧
        LastAdded edits guid expiry between := by
  rw [lastAdded_concat]
  constructor
  · rintro (⟨span', now', hadd, -⟩ | ⟨-, hbetween⟩)
    · injection hadd with hsame
      exact absurd hsame.symm hne
    · exact hbetween
  · intro hbetween
    exact .inr ⟨Edit.spares_add_of_ne hne, hbetween⟩

theorem addsBefore_concat_add :
    AddsBefore (since ++ [.add other span now]) expiry ↔
      AddsBefore since expiry ∧ now < expiry := by
  constructor
  · intro h
    refine ⟨fun guid span' now' hmem => h guid span' now' (List.mem_append_left _ hmem), ?_⟩
    exact h other span now (by simp)
  · rintro ⟨hsince, hnow⟩ guid span' now' hmem
    rcases List.mem_append.mp hmem with hmem | hmem
    · exact hsince guid span' now' hmem
    · have heq := List.mem_singleton.mp hmem
      injection heq with hguid hspan hnow'
      rw [hnow']
      exact hnow

/-! ## Expiries after a history -/

theorem ofEdits_concat (edits : List Edit) (edit : Edit) :
    ofEdits (edits ++ [edit]) = edit.apply (ofEdits edits) := by
  rw [ofEdits, List.foldl_concat]
  rfl

theorem ofEditsKeeping_concat (edits : List Edit) (edit : Edit) :
    ofEditsKeeping (edits ++ [edit]) = edit.applyKeeping (ofEditsKeeping edits) := by
  rw [ofEditsKeeping, List.foldl_concat]
  rfl

theorem expiry?_ofEdits_iff :
    (ofEdits edits).expiry? guid = some expiry ↔
      ∃ since, LastAdded edits guid expiry since ∧ AddsBefore since expiry := by
  induction edits using List.reverseRecOn with
  | nil => simp [ofEdits, not_lastAdded_nil]
  | append_singleton edits edit ih =>
      rw [ofEdits_concat]
      cases edit with
      | flush => simp [Edit.apply, flush, not_lastAdded_concat_flush]
      | add other span now =>
          rw [Edit.apply]
          by_cases hguid : guid = other
          · subst hguid
            rw [expiry?_add_self, Option.some.injEq]
            simp only [lastAdded_concat_self]
            constructor
            · intro h
              exact ⟨[], ⟨h.symm, rfl⟩, by simp [AddsBefore]⟩
            · rintro ⟨since, ⟨rfl, -⟩, -⟩
              rfl
          · rw [expiry?_add_iff_of_ne hguid, ih]
            simp only [lastAdded_concat_other hguid]
            constructor
            · rintro ⟨⟨between, hlast, hbefore⟩, hnow⟩
              exact ⟨_, ⟨between, rfl, hlast⟩, addsBefore_concat_add.mpr ⟨hbefore, hnow⟩⟩
            · rintro ⟨since, ⟨between, rfl, hlast⟩, hbefore⟩
              obtain ⟨hbetween, hnow⟩ := addsBefore_concat_add.mp hbefore
              exact ⟨⟨between, hlast, hbetween⟩, hnow⟩

theorem expiry?_ofEditsKeeping_iff :
    (ofEditsKeeping edits).expiry? guid = some expiry ↔
      ∃ since, LastAdded edits guid expiry since := by
  induction edits using List.reverseRecOn with
  | nil => simp [ofEditsKeeping, not_lastAdded_nil]
  | append_singleton edits edit ih =>
      rw [ofEditsKeeping_concat]
      cases edit with
      | flush => simp [Edit.applyKeeping, not_lastAdded_concat_flush]
      | add other span now =>
          rw [Edit.applyKeeping, expiry?_insert]
          by_cases hguid : guid = other
          · subst hguid
            rw [if_pos rfl, Option.some.injEq]
            simp [lastAdded_concat_self, eq_comm]
          · rw [if_neg hguid, ih]
            simp only [lastAdded_concat_other hguid]
            constructor
            · rintro ⟨between, hlast⟩
              exact ⟨_, between, rfl, hlast⟩
            · rintro ⟨since, between, -, hlast⟩
              exact ⟨between, hlast⟩

/-! ## Live entries -/

/-- The live entries are those of the excluded identities, one of each. -/
theorem encard_contains (s : Exclusions) (now : Timestamp) :
    {guid | s.contains guid now = true}.encard = s.liveCount now := by
  have hlive : {guid | s.contains guid now = true} =
      (((s.entries.filter (now < ·.2)).map Prod.fst).toFinset : Set Guid) := by
    ext guid
    simp only [Set.mem_ofPred_eq, contains_iff, expiry?_eq_some_iff, List.coe_toFinset,
      List.mem_map, List.mem_filter, decide_eq_true_eq, Prod.exists, exists_and_right,
      exists_eq_right]
  have hnodup := nodup_keys_filter s.nodup_keys (now < ·.2)
  rw [hlive, Set.encard_coe_eq_coe_finsetCard, List.toFinset_card_of_nodup hnodup,
    List.length_map, liveCount, List.countP_eq_length_filter]

theorem liveCount_congr {s s' : Exclusions}
    (h : ∀ guid, s.contains guid now = s'.contains guid now) :
    s.liveCount now = s'.liveCount now := by
  have hcount : (s.liveCount now : ℕ∞) = s'.liveCount now := by
    rw [← encard_contains, ← encard_contains]
    simp only [h]
  exact Nat.cast_inj.mp hcount

/-! ## What pruning hides -/

/-- The last addition of an identity is seen by every addition after it. -/
theorem LastAdded.addsBefore (h : LastAdded edits guid expiry since) (hahead : NoneAhead edits now)
    (hnow : now < expiry) : AddsBefore since expiry := by
  obtain ⟨before, span, added, rfl, -, hsince⟩ := h
  intro other span' now' hmem
  obtain ⟨front, back, rfl⟩ := List.append_of_mem hmem
  have hflush : .flush ∉ back := fun hflush => (hsince .flush (by simp [hflush])).1 rfl
  have hle : now' ≤ now :=
    hahead (before ++ .add guid span added :: front) back other span' now' (by simp) hflush
  rw [Timestamp.le_iff_toNat_le] at hle
  rw [Timestamp.lt_iff_toNat_lt] at hnow ⊢
  omega

theorem contains_ofEdits_eq (hahead : NoneAhead edits now) (guid : Guid) :
    (ofEdits edits).contains guid now = (ofEditsKeeping edits).contains guid now := by
  rw [Bool.eq_iff_iff, contains_iff, contains_iff]
  simp only [expiry?_ofEdits_iff, expiry?_ofEditsKeeping_iff]
  constructor
  · rintro ⟨expiry, ⟨since, hlast, -⟩, hnow⟩
    exact ⟨expiry, ⟨since, hlast⟩, hnow⟩
  · rintro ⟨expiry, ⟨since, hlast⟩, hnow⟩
    exact ⟨expiry, ⟨since, hlast, hlast.addsBefore hahead hnow⟩, hnow⟩

/-- An identity is excluded by its last addition since the last flush, until that expires or an
addition is made at a reading at which it has expired.  Dropping what has expired makes a difference
at no reading that no addition since the last flush has run ahead of. -/
theorem history_decides_exclusions (edits : List Edit) :
    (∀ guid span now, ((ofEdits edits).add guid span now).1 = now.after span ∧
      (now.after span).millis.toNat = min (now.millis.toNat + span.millis) (2 ^ 64 - 1)) ∧
    (∀ guid now, (ofEdits edits).contains guid now = true ↔
      ∃ expiry since, LastAdded edits guid expiry since ∧ now < expiry ∧
        AddsBefore since expiry) ∧
    (∀ now, {guid | (ofEdits edits).contains guid now = true}.encard =
      (ofEdits edits).liveCount now) ∧
    ∀ now, NoneAhead edits now →
      (∀ guid, (ofEdits edits).contains guid now = (ofEditsKeeping edits).contains guid now) ∧
        (ofEdits edits).liveCount now = (ofEditsKeeping edits).liveCount now ∧
        (ofEdits edits).isEmptyAt now = (ofEditsKeeping edits).isEmptyAt now := by
  refine ⟨fun guid span now => ⟨rfl, now.toNat_after span⟩, fun guid now => ?_,
    encard_contains _, fun now hahead => ?_⟩
  · rw [contains_iff]
    simp only [expiry?_ofEdits_iff]
    constructor
    · rintro ⟨expiry, ⟨since, hlast, hbefore⟩, hnow⟩
      exact ⟨expiry, since, hlast, hnow, hbefore⟩
    · rintro ⟨expiry, since, hlast, hnow, hbefore⟩
      exact ⟨expiry, ⟨since, hlast, hbefore⟩, hnow⟩
  · have hcontains := contains_ofEdits_eq hahead
    have hcount := liveCount_congr hcontains
    exact ⟨hcontains, hcount, by rw [isEmptyAt, isEmptyAt, hcount]⟩

/-- An addition that runs ahead of a reading can hide an exclusion from it. -/
example :
    let edits : List Edit := [.add ⟨1⟩ ⟨10, 0⟩ ⟨0⟩, .add ⟨2⟩ ⟨10, 0⟩ ⟨20000⟩]
    (ofEdits edits).contains ⟨1⟩ ⟨5000⟩ = false ∧
      (ofEditsKeeping edits).contains ⟨1⟩ ⟨5000⟩ = true := by
  decide

end Encounter.Exclusions
