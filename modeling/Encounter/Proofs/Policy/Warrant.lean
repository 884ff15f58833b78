import Encounter.Proofs.Policy.Flat
import Encounter.Proofs.World.Expiry

/-!
# What warrants a decision

A decision tells what the tick has found: `Warrant` lists, for each decision, what must hold of the
world and of the exclusions for the policy to take it.  The converse is not true, since an earlier
case may have had the turn.  A request for a target, which may be refused and then decides nothing,
tells at least which two creatures it can have been made for.
-/

namespace Encounter

variable {ε : Type}

def Attempt.decision : Attempt → Decision
  | .target _ decision => decision
  | .perform part => .routine part

theorem CombatRoutine.exists_of_attempt_settled (routine : CombatRoutine ε)
    {attempts : List Attempt} {env : ε} {status : Status} {decision : Decision}
    (h : (routine.attempt attempts env).settled = some (status, decision)) :
    ∃ attempt ∈ attempts, attempt.decision = decision := by
  induction attempts generalizing env with
  | nil => simp [attempt] at h
  | cons first rest ih =>
      have hrest : ∀ {env'}, (routine.attempt rest env').settled = some (status, decision) →
          ∃ attempt ∈ first :: rest, attempt.decision = decision := by
        intro env' hsettled
        obtain ⟨attempt, hmem, hdecision⟩ := ih hsettled
        exact ⟨attempt, List.mem_cons_of_mem _ hmem, hdecision⟩
      cases first with
      | target guid goal =>
          rcases hanswer : routine.target guid env with ⟨_ | _, env'⟩
          · simp only [attempt, hanswer] at h
            exact hrest h
          · simp only [attempt, hanswer, Option.some.injEq, Prod.mk.injEq] at h
            exact ⟨_, List.mem_cons_self, h.2⟩
      | perform part =>
          rcases hanswer : routine.perform part env with ⟨_ | _ | _, env'⟩
          · simp only [attempt, hanswer, Option.some.injEq, Prod.mk.injEq] at h
            exact ⟨_, List.mem_cons_self, h.2⟩
          · simp only [attempt, hanswer] at h
            exact hrest h
          · simp only [attempt, hanswer, Option.some.injEq, Prod.mk.injEq] at h
            exact ⟨_, List.mem_cons_self, h.2⟩

theorem CombatRoutine.exists_of_target_mem_calls (routine : CombatRoutine ε)
    {attempts : List Attempt} {env : ε} {guid : Guid} {accepted : Bool}
    (h : .target guid accepted ∈ (routine.attempt attempts env).calls) :
    ∃ decision, .target guid decision ∈ attempts := by
  induction attempts generalizing env with
  | nil => simp [attempt] at h
  | cons first rest ih =>
      have hrest : ∀ {env'}, .target guid accepted ∈ (routine.attempt rest env').calls →
          ∃ decision, .target guid decision ∈ first :: rest := by
        intro env' hmem
        obtain ⟨decision, hdecision⟩ := ih hmem
        exact ⟨decision, List.mem_cons_of_mem _ hdecision⟩
      cases first with
      | target other goal =>
          rcases hanswer : routine.target other env with ⟨_ | _, env'⟩
          · simp only [attempt, hanswer, Bout.after, List.mem_cons, CombatCall.target.injEq] at h
            rcases h with ⟨rfl, -⟩ | h
            · exact ⟨goal, List.mem_cons_self⟩
            · exact hrest h
          · simp only [attempt, hanswer, List.mem_singleton, CombatCall.target.injEq] at h
            obtain ⟨rfl, -⟩ := h
            exact ⟨goal, List.mem_cons_self⟩
      | perform part =>
          rcases hanswer : routine.perform part env with ⟨_ | _ | _, env'⟩
          · simp [attempt, hanswer] at h
          · simp only [attempt, hanswer, Bout.after, List.mem_cons, reduceCtorEq, false_or] at h
            exact hrest h
          · simp [attempt, hanswer] at h

namespace FlatPolicy

/-- What holds of `world` and `exclusions` when a tick takes a decision. -/
inductive Warrant (config : Config) (world : World) (exclusions : Exclusions) : Decision → Prop
  | complete (hboss : (boss config world).filter Creature.alive = none) :
      Warrant config world exclusions .complete
  | exclude {c : Creature} (hcandidate : blacklisted config world exclusions false = some c) :
      Warrant config world exclusions (.exclude c.guid)
  | engagePriority {c creature : Creature} (hboss : boss config world = some c)
      (hwindow : windowOpen config world c = true)
      (hpriority : priority config world = some creature) :
      Warrant config world exclusions (.engagePriority creature.guid)
  | flushExclusions (hexcluded : (blacklisted config world exclusions true).isSome = true)
      (hpriority : priority config world = none) :
      Warrant config world exclusions .flushExclusions
  | engageBoss {c : Creature} (hboss : boss config world = some c)
      (haura : c.hasAura config.aura = false) :
      Warrant config world exclusions (.engageBoss c.guid)
  | routine (part : RoutinePart) : Warrant config world exclusions (.routine part)

variable {config : Config} {world : World} {exclusions : Exclusions} {routine : CombatRoutine ε}
variable {env : ε} {d : Decision}

theorem warrant_of_mem_parts {attempt : Attempt} (h : attempt ∈ parts) :
    Warrant config world exclusions attempt.decision := by
  simp only [parts, List.mem_cons, List.not_mem_nil, or_false] at h
  rcases h with rfl | rfl | rfl
  · exact .routine .heal
  · exact .routine .combatBuff
  · exact .routine .combat

theorem warrant_of_mem_priorityAttempts {c : Creature} {attempt : Attempt}
    (hboss : boss config world = some c) (hwindow : windowOpen config world c = true)
    (h : attempt ∈ priorityAttempts config world) :
    Warrant config world exclusions attempt.decision := by
  unfold priorityAttempts at h
  cases hpriority : priority config world with
  | none =>
      simp only [hpriority] at h
      exact warrant_of_mem_parts h
  | some creature =>
      simp only [hpriority] at h
      split at h
      next =>
        rcases List.mem_cons.mp h with rfl | h
        · exact .engagePriority hboss hwindow hpriority
        · exact warrant_of_mem_parts h
      next => exact warrant_of_mem_parts h

theorem warrant_of_mem_bossAttempts {c : Creature} {attempt : Attempt}
    (hboss : boss config world = some c) (haura : c.hasAura config.aura = false)
    (h : attempt ∈ bossAttempts world c) :
    Warrant config world exclusions attempt.decision := by
  unfold bossAttempts at h
  split at h
  next =>
    rcases List.mem_cons.mp h with rfl | h
    · exact .engageBoss hboss haura
    · exact warrant_of_mem_parts h
  next => exact warrant_of_mem_parts h

theorem warrant_of_settled {attempts : List Attempt} {calls : List CombatCall}
    (hattempts : ∀ attempt ∈ attempts, Warrant config world exclusions attempt.decision)
    (h : (settle exclusions calls (routine.attempt attempts env)).decision = some d) :
    Warrant config world exclusions d := by
  obtain ⟨⟨status, decision⟩, hsettled, rfl⟩ := Option.map_eq_some_iff.mp h
  obtain ⟨attempt, hmem, hdecision⟩ := routine.exists_of_attempt_settled hsettled
  rw [← hdecision]
  exact hattempts attempt hmem

theorem warrant_of_engage {c : Creature} (hboss : boss config world = some c)
    (h : (engage config world exclusions routine c env).decision = some d) :
    Warrant config world exclusions d := by
  have hopening : ∀ attempt ∈
      (if windowOpen config world c then priorityAttempts config world else []),
      Warrant config world exclusions attempt.decision := by
    intro attempt hmem
    split at hmem
    next hwindow => exact warrant_of_mem_priorityAttempts hboss hwindow hmem
    next => simp at hmem
  have hclosing : ∀ attempt ∈ (if c.hasAura config.aura then [] else bossAttempts world c),
      Warrant config world exclusions attempt.decision := by
    intro attempt hmem
    split at hmem
    next => simp at hmem
    next haura => exact warrant_of_mem_bossAttempts hboss (by simpa using haura) hmem
  unfold engage at h
  generalize (if windowOpen config world c then priorityAttempts config world else []) =
    openers at h hopening
  generalize (if c.hasAura config.aura then [] else bossAttempts world c) = closers at h hclosing
  simp only at h
  split at h
  next => exact warrant_of_settled hopening h
  next =>
    split at h
    next hamnesty =>
      obtain rfl := Option.some.inj h
      exact .flushExclusions hamnesty.1 hamnesty.2
    next => exact warrant_of_settled hclosing h

/-- No tick decides anything without warrant. -/
theorem warrant_of_verdict (h : (verdict config world exclusions routine env).decision = some d) :
    Warrant config world exclusions d := by
  unfold verdict at h
  cases hboss : (boss config world).filter Creature.alive with
  | none =>
      simp only [hboss, Option.some.injEq] at h
      exact h ▸ .complete hboss
  | some c =>
      simp only [hboss] at h
      cases hcandidate : blacklisted config world exclusions false with
      | some creature =>
          simp only [hcandidate, Option.some.injEq] at h
          exact h ▸ .exclude hcandidate
      | none =>
          simp only [hcandidate] at h
          exact warrant_of_engage (Option.filter_eq_some_iff.mp hboss).1 h

theorem decision_eq_complete_iff :
    (verdict config world exclusions routine env).decision = some .complete ↔
      (boss config world).filter Creature.alive = none := by
  constructor
  · intro h
    cases warrant_of_verdict h with
    | complete hboss => exact hboss
  · intro hboss
    simp only [verdict, hboss]

/-- The creature that a tick excludes was not excluded before. -/
theorem Warrant.not_contains {guid : Guid}
    (h : Warrant config world exclusions (.exclude guid)) :
    exclusions.contains guid world.now = false := by
  cases h with
  | exclude hcandidate =>
      obtain ⟨-, heligible⟩ := Query.isEligible_of_foremost hcandidate
      simp only [Creature.isEligible, Bool.and_eq_true, beq_false, Bool.not_eq_true'] at heligible
      exact heligible.2.2

/-! ## What warrants a request for a target -/

/-- The priority creature is asked for only if it is not the target that the world shows, or if that
is dead. -/
theorem exists_of_target_mem_priorityAttempts {guid : Guid} {decision : Decision}
    (h : .target guid decision ∈ priorityAttempts config world) :
    ∃ c, priority config world = some c ∧ c.guid = guid ∧
      ((target world).map Creature.guid ≠ some guid ∨ (target world).any Creature.isDead) := by
  unfold priorityAttempts at h
  cases hpriority : priority config world with
  | none => simp [hpriority, parts] at h
  | some c =>
      refine ⟨c, rfl, ?_⟩
      simp only [hpriority] at h
      split at h
      next hoff =>
        obtain ⟨rfl, -⟩ : guid = c.guid ∧ decision = .engagePriority c.guid := by
          simpa [parts] using h
        exact ⟨rfl, hoff⟩
      next => simp [parts] at h

theorem eq_of_target_mem_bossAttempts {c : Creature} {guid : Guid} {decision : Decision}
    (h : .target guid decision ∈ bossAttempts world c) :
    c.guid = guid ∧ (target world).map Creature.guid ≠ some guid := by
  unfold bossAttempts at h
  split at h
  next hoff =>
    obtain ⟨rfl, -⟩ : guid = c.guid ∧ decision = .engageBoss c.guid := by simpa [parts] using h
    exact ⟨rfl, hoff⟩
  next => simp [parts] at h

theorem attempted_of_target_mem_engage {c : Creature} {guid : Guid} {accepted : Bool}
    (h : .target guid accepted ∈ (engage config world exclusions routine c env).calls) :
    ∃ decision, .target guid decision ∈ priorityAttempts config world ∨
      .target guid decision ∈ bossAttempts world c := by
  have hopening : ∀ {decision}, .target guid decision ∈
      (if windowOpen config world c then priorityAttempts config world else []) →
      .target guid decision ∈ priorityAttempts config world := by
    intro decision hmem
    split at hmem
    next => exact hmem
    next => simp at hmem
  have hclosing : ∀ {decision}, .target guid decision ∈
      (if c.hasAura config.aura then [] else bossAttempts world c) →
      .target guid decision ∈ bossAttempts world c := by
    intro decision hmem
    split at hmem
    next => simp at hmem
    next => exact hmem
  unfold engage at h
  generalize (if windowOpen config world c then priorityAttempts config world else []) =
    openers at h hopening
  generalize (if c.hasAura config.aura then [] else bossAttempts world c) = closers at h hclosing
  simp only at h
  split at h
  next =>
    obtain ⟨decision, hmem⟩ := routine.exists_of_target_mem_calls (by simpa [settle] using h)
    exact ⟨decision, .inl (hopening hmem)⟩
  next =>
    split at h
    next =>
      obtain ⟨decision, hmem⟩ := routine.exists_of_target_mem_calls (by simpa using h)
      exact ⟨decision, .inl (hopening hmem)⟩
    next =>
      rcases List.mem_append.mp h with h | h
      · obtain ⟨decision, hmem⟩ := routine.exists_of_target_mem_calls h
        exact ⟨decision, .inl (hopening hmem)⟩
      · obtain ⟨decision, hmem⟩ := routine.exists_of_target_mem_calls h
        exact ⟨decision, .inr (hclosing hmem)⟩

theorem attempted_of_target_mem_verdict {guid : Guid} {accepted : Bool}
    (h : .target guid accepted ∈ (verdict config world exclusions routine env).calls) :
    ∃ c decision, boss config world = some c ∧
      (.target guid decision ∈ priorityAttempts config world ∨
        .target guid decision ∈ bossAttempts world c) := by
  unfold verdict at h
  cases hboss : (boss config world).filter Creature.alive with
  | none => simp [hboss] at h
  | some c =>
      simp only [hboss] at h
      cases hcandidate : blacklisted config world exclusions false with
      | some creature => simp [hcandidate] at h
      | none =>
          simp only [hcandidate] at h
          obtain ⟨decision, hmem⟩ := attempted_of_target_mem_engage h
          exact ⟨c, decision, (Option.filter_eq_some_iff.mp hboss).1, hmem⟩

/-- Only the creature first in the kill order and the boss are ever asked for as targets. -/
theorem exists_of_target_mem_verdict {guid : Guid} {accepted : Bool}
    (h : .target guid accepted ∈ (verdict config world exclusions routine env).calls) :
    (∃ p, priority config world = some p ∧ p.guid = guid) ∨
      ∃ c, boss config world = some c ∧ c.guid = guid := by
  obtain ⟨c, decision, hboss, hmem | hmem⟩ := attempted_of_target_mem_verdict h
  · obtain ⟨p, hpriority, hguid, -⟩ := exists_of_target_mem_priorityAttempts hmem
    exact .inl ⟨p, hpriority, hguid⟩
  · exact .inr ⟨c, hboss, (eq_of_target_mem_bossAttempts hmem).1⟩

/-- Where identities are distinct, what the player has targeted is not asked for: the only creature
that bears its identity is alive. -/
theorem target_ne_of_target_mem_verdict (hdistinct : (world.creatures.map Creature.guid).Nodup)
    {guid : Guid} {accepted : Bool}
    (h : .target guid accepted ∈ (verdict config world exclusions routine env).calls) :
    world.target ≠ some guid := by
  intro htarget
  -- A creature in sight that bears the identity is the one that the target is taken to be.
  have hseen : ∀ c ∈ world.creatures, c.guid = guid → target world = some c := by
    rintro c hmem rfl
    rw [target, htarget, Option.bind_some]
    exact find?_eq_of_nodup_map hdistinct hmem
  obtain ⟨c, decision, hboss, hmem | hmem⟩ := attempted_of_target_mem_verdict h
  · obtain ⟨p, hpriority, hguid, hoff⟩ := exists_of_target_mem_priorityAttempts hmem
    obtain ⟨hcreature, heligible⟩ := Query.isEligible_of_foremost hpriority
    simp only [Creature.isEligible, Bool.and_eq_true] at heligible
    rw [hseen p hcreature hguid] at hoff
    simp [hguid, Creature.isDead, heligible] at hoff
  · obtain ⟨hguid, hoff⟩ := eq_of_target_mem_bossAttempts hmem
    rw [hseen c (List.mem_of_find?_eq_some hboss) hguid] at hoff
    exact hoff (congrArg some hguid)

end FlatPolicy

end Encounter
