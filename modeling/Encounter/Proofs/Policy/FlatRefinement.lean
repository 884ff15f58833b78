import Encounter.Policy.Tree
import Encounter.Proofs.Policy.Flat
import Encounter.Proofs.Tree.Outcome

/-!
# The tree decides as the five cases do

The gates of the engaging branches read the scene alone, and their moves change nothing but the
environment and the calls until one of them succeeds.  So such a branch is a list of attempts, fixed
before the tick, and the whole tree is read off branch by branch.
-/

namespace Encounter

variable {ε : Type}

def Progress.settle (p : Progress ε) (bout : Bout ε) : Status × Progress ε :=
  match bout.settled with
  | none => (.failure, { p with env := bout.env, calls := p.calls ++ bout.calls })
  | some (status, decision) =>
      (status, { p with env := bout.env, calls := p.calls ++ bout.calls }.record decision)

def Progress.afterVain (p : Progress ε) (env : ε) (call : CombatCall) : Progress ε :=
  { p with env, calls := p.calls ++ [call] }

theorem Progress.settle_afterVain (p : Progress ε) (env : ε) (call : CombatCall) (bout : Bout ε) :
    (p.afterVain env call).settle bout = p.settle (bout.after call) := by
  rcases bout with ⟨_ | ⟨status, decision⟩, env', calls⟩ <;>
    simp [settle, afterVain, Bout.after, record]

theorem Progress.settle_of_vain (p : Progress ε) {bout : Bout ε} (h : bout.settled = none) :
    p.settle bout = (.failure, { p with env := bout.env, calls := p.calls ++ bout.calls }) := by
  rw [settle, h]

theorem Progress.settle_empty (p : Progress ε) : p.settle { env := p.env } = (.failure, p) := by
  simp [settle]

def Progress.verdict (answer : Status × Progress ε) : Verdict ε where
  status := answer.1
  decision := answer.2.decision
  exclusions := answer.2.exclusions
  isDone := answer.2.completion.isDone
  env := answer.2.env
  calls := answer.2.calls

theorem CombatRoutine.attempt_settled_ne_failure (routine : CombatRoutine ε)
    (attempts : List Attempt) (env : ε) {status : Status} {decision : Decision}
    (h : (routine.attempt attempts env).settled = some (status, decision)) :
    status ≠ .failure := by
  induction attempts generalizing env with
  | nil => simp [attempt] at h
  | cons attempt attempts ih =>
      cases attempt with
      | target guid goal =>
          rcases hanswer : routine.target guid env with ⟨_ | _, env'⟩
          · simp only [CombatRoutine.attempt, hanswer] at h
            exact ih env' h
          · simp only [CombatRoutine.attempt, hanswer, Option.some.injEq, Prod.mk.injEq] at h
            simp [← h.1]
      | perform part =>
          rcases hanswer : routine.perform part env with ⟨_ | _ | _, env'⟩
          · simp only [CombatRoutine.attempt, hanswer, Option.some.injEq, Prod.mk.injEq] at h
            simp [← h.1]
          · simp only [CombatRoutine.attempt, hanswer] at h
            exact ih env' h
          · simp only [CombatRoutine.attempt, hanswer, Option.some.injEq, Prod.mk.injEq] at h
            simp [← h.1]

section Branches

variable (routine : CombatRoutine ε) (scene : Scene)

/-- A list of branches that makes the given attempts, whatever happened before. -/
def Makes (children : List PolicyTree) (attempts : List Attempt) : Prop :=
  ∀ p : Progress ε, Node.tickFirst (scene.behaviour routine) children p =
    p.settle (routine.attempt attempts p.env)

variable {routine scene} {children : List PolicyTree} {attempts : List Attempt}

theorem makes_nil : Makes routine scene [] [] := by
  intro p
  rw [Node.tickFirst_nil]
  exact p.settle_empty.symm

theorem Makes.cons_part (h : Makes routine scene children attempts) {move : Move}
    {part : RoutinePart}
    (hmove : ∀ p, move.perform routine scene p = Move.delegate routine part p) :
    Makes routine scene (.action move :: children) (.perform part :: attempts) := by
  intro p
  rw [Node.tickFirst_cons, Node.tick_action]
  rw [Scene.behaviour_perform, hmove]
  rcases hanswer : routine.perform part p.env with ⟨status, env⟩
  cases status with
  | failure =>
      have hvain : Move.delegate routine part p =
          (.failure, p.afterVain env (.perform part .failure)) := by
        simp [Move.delegate, Progress.perform, Progress.afterVain, hanswer]
      rw [hvain, if_pos rfl, h, Progress.settle_afterVain]
      simp [CombatRoutine.attempt, Progress.afterVain, hanswer]
  | success =>
      simp [Move.delegate, Progress.perform, Progress.settle, CombatRoutine.attempt, hanswer]
  | running =>
      simp [Move.delegate, Progress.perform, Progress.settle, CombatRoutine.attempt, hanswer]

theorem Makes.cons_target (h : Makes routine scene children attempts) {move : Move}
    {creature : Creature} {decision : Guid → Decision}
    (hmove : ∀ p, move.perform routine scene p =
      Move.engage routine decision p (some creature)) :
    Makes routine scene (.action move :: children)
      (.target creature.guid (decision creature.guid) :: attempts) := by
  intro p
  rw [Node.tickFirst_cons, Node.tick_action]
  rw [Scene.behaviour_perform, hmove]
  rcases hanswer : routine.target creature.guid p.env with ⟨accepted, env⟩
  cases accepted with
  | false =>
      have hvain : Move.engage routine decision p (some creature) =
          (.failure, p.afterVain env (.target creature.guid false)) := by
        simp [Move.engage, Progress.target, Progress.afterVain, hanswer]
      rw [hvain, if_pos rfl, h, Progress.settle_afterVain]
      simp [CombatRoutine.attempt, Progress.afterVain, hanswer]
  | true =>
      simp [Move.engage, Progress.target, Progress.settle, CombatRoutine.attempt, hanswer]

theorem Makes.cons_open {gate : Gate} {child : PolicyTree}
    (h : Makes routine scene (child :: children) attempts)
    (hopen : ∀ p : Progress ε, gate.isOpen scene p = true) :
    Makes routine scene (.guard gate child :: children) attempts := by
  intro p
  have hguard : (Node.guard gate child).tick (scene.behaviour routine) p =
      child.tick (scene.behaviour routine) p := by
    rw [Node.tick_guard, Scene.behaviour_holds, if_pos (hopen p)]
  rw [Node.tickFirst_cons, hguard, ← Node.tickFirst_cons]
  exact h p

theorem Makes.cons_shut {gate : Gate} {child : PolicyTree}
    (h : Makes routine scene children attempts)
    (hshut : ∀ p : Progress ε, gate.isOpen scene p = false) :
    Makes routine scene (.guard gate child :: children) attempts := by
  intro p
  have hguard : (Node.guard gate child).tick (scene.behaviour routine) p = (.failure, p) := by
    rw [Node.tick_guard, Scene.behaviour_holds, if_neg (by simp [hshut p])]
  rw [Node.tickFirst_cons, hguard, if_pos rfl]
  exact h p

theorem Makes.cons_guard_target (h : Makes routine scene children attempts) {gate : Gate}
    {move : Move} {creature : Creature} {decision : Guid → Decision} {off : Prop} [Decidable off]
    (hgate : ∀ p : Progress ε, gate.isOpen scene p = decide off)
    (hmove : ∀ p, move.perform routine scene p =
      Move.engage routine decision p (some creature)) :
    Makes routine scene (.guard gate (.action move) :: children)
      (if off then .target creature.guid (decision creature.guid) :: attempts else attempts) := by
  by_cases hoff : off
  · rw [if_pos hoff]
    apply (h.cons_target hmove).cons_open
    intro p
    simp [hgate p, hoff]
  · rw [if_neg hoff]
    apply h.cons_shut
    intro p
    simp [hgate p, hoff]

theorem Makes.cons_guard_no_target (h : Makes routine scene children attempts) {gate : Gate}
    {move : Move} {decision : Guid → Decision}
    (hmove : ∀ p, move.perform routine scene p = Move.engage routine decision p none) :
    Makes routine scene (.guard gate (.action move) :: children) attempts := by
  intro p
  have hguard : (Node.guard gate (.action move)).tick (scene.behaviour routine) p =
      (.failure, p) := by
    rw [Node.tick_guard, Node.tick_action, Scene.behaviour_perform, hmove]
    exact ite_self _
  rw [Node.tickFirst_cons, hguard, if_pos rfl]
  exact h p

theorem Makes.singleton_priority (h : Makes routine scene children attempts) :
    Makes routine scene [.priority children] attempts := by
  intro p
  rw [Node.tickFirst_singleton, Node.tick_priority]
  exact h p

theorem Makes.tick_guard (h : Makes routine scene children attempts) {gate : Gate} {isOpen : Bool}
    (hgate : ∀ p : Progress ε, gate.isOpen scene p = isOpen) (p : Progress ε) :
    (Node.guard gate (.priority children)).tick (scene.behaviour routine) p =
      p.settle (routine.attempt (if isOpen then attempts else []) p.env) := by
  rw [Node.tick_guard, Node.tick_priority, Scene.behaviour_holds, hgate p]
  cases isOpen with
  | true => exact h p
  | false => exact p.settle_empty.symm

theorem makes_routine : Makes routine scene [Policy.routine] FlatPolicy.parts := by
  apply Makes.singleton_priority
  apply Makes.cons_part _ fun _ => rfl
  apply Makes.cons_part _ fun _ => rfl
  apply Makes.cons_part _ fun _ => rfl
  exact makes_nil

end Branches

namespace FlatPolicy

variable (config : Config) (world : World) (exclusions : Exclusions)

def scene : Scene where
  config := config
  now := world.now
  seen := Sightings.observe config world exclusions world.now

theorem seen_priority :
    (scene config world exclusions).seen.priority = priority config world :=
  Query.nearestWhere_eq_foremost _ _ _

theorem seen_candidate :
    (scene config world exclusions).seen.candidate = blacklisted config world exclusions false := by
  simp only [scene, Sightings.observe, blacklisted, Query.nearestWhere_eq_foremost, beq_false]

theorem seen_excluded :
    (scene config world exclusions).seen.excluded = blacklisted config world exclusions true := by
  simp only [scene, Sightings.observe, blacklisted, Query.nearestWhere_eq_foremost, beq_true]

theorem expiry_eq : world.now.after Exclusions.lifetime = expiry world := by
  rfl

variable (routine : CombatRoutine ε)

theorem makes_priorityAttempts :
    Makes routine (scene config world exclusions)
      [.guard .offPriorityTarget (.action .targetPriority), Policy.routine]
      (priorityAttempts config world) := by
  have hpriority := seen_priority config world exclusions
  unfold priorityAttempts
  cases hp : priority config world with
  | none =>
      rw [hp] at hpriority
      apply makes_routine.cons_guard_no_target
      intro p
      rw [Move.perform, hpriority]
  | some c =>
      rw [hp] at hpriority
      apply makes_routine.cons_guard_target
      · intro p
        have htarget : (scene config world exclusions).seen.target = target world := rfl
        rw [Bool.eq_iff_iff, decide_eq_true_iff, Gate.isOpen, Sightings.targetGuid, hpriority,
          htarget, Bool.or_eq_true, bne_iff_ne, Option.map_some]
      · intro p
        rw [Move.perform, hpriority]

theorem makes_bossAttempts {c : Creature} (hboss : boss config world = some c) :
    Makes routine (scene config world exclusions)
      [.guard .offBoss (.action .targetBoss), Policy.routine] (bossAttempts world c) := by
  have hseen : (scene config world exclusions).seen.boss = some c := hboss
  unfold bossAttempts
  apply makes_routine.cons_guard_target
  · intro p
    have htarget : (scene config world exclusions).seen.target = target world := rfl
    rw [Bool.eq_iff_iff, decide_eq_true_iff, Gate.isOpen, Sightings.targetGuid, hseen, htarget,
      bne_iff_ne, Option.map_some]
  · intro p
    rw [Move.perform, hseen]

variable {c : Creature} (p : Progress ε)

theorem tick_killOrder (hboss : boss config world = some c) :
    Policy.killOrder.tick ((scene config world exclusions).behaviour routine) p =
      p.settle (routine.attempt
        (if windowOpen config world c then priorityAttempts config world else []) p.env) := by
  apply (makes_priorityAttempts config world exclusions routine).tick_guard
  intro q
  have hseen : (scene config world exclusions).seen.boss = some c := hboss
  rw [Gate.isOpen, seen_priority, hseen]
  rfl

theorem tick_boss (hboss : boss config world = some c) :
    Policy.boss.tick ((scene config world exclusions).behaviour routine) p =
      p.settle (routine.attempt
        (if c.hasAura config.aura then [] else bossAttempts world c) p.env) := by
  have hgate : ∀ q : Progress ε, Gate.isOpen (scene config world exclusions) q .bossEngageable =
      !c.hasAura config.aura := by
    intro q
    have hseen : (scene config world exclusions).seen.boss = some c := hboss
    rw [Gate.isOpen, hseen]
    rfl
  have htick := (makes_bossAttempts config world exclusions routine hboss).tick_guard hgate p
  rw [Policy.boss, htick]
  cases c.hasAura config.aura <;> rfl

theorem tick_amnesty :
    Policy.amnesty.tick ((scene config world exclusions).behaviour routine) p =
      if (blacklisted config world exclusions true).isSome ∧ priority config world = none then
        (.success, (p.flush routine).record .flushExclusions)
      else (.failure, p) := by
  rw [Policy.amnesty, Node.tick_guard, Node.tick_action, Scene.behaviour_holds,
    Scene.behaviour_perform, Gate.isOpen, seen_priority, seen_excluded]
  simp only [Bool.and_eq_true, Option.isNone_iff_eq_none]
  rfl

theorem tick_completion :
    Policy.completion.tick ((scene config world exclusions).behaviour routine) p =
      if (boss config world).filter Creature.alive = none then
        (.success, p.markDone.record .complete)
      else (.failure, p) := by
  have hgate : Gate.isOpen (scene config world exclusions) p .bossDefeated = true ↔
      (boss config world).filter Creature.alive = none := by
    have hseen : (scene config world exclusions).seen.boss = boss config world := rfl
    rw [Gate.isOpen, hseen]
    cases boss config world <;> simp [Creature.isDead, Option.filter]
  rw [Policy.completion, Node.tick_guard, Node.tick_action, Scene.behaviour_holds]
  simp only [hgate]
  rfl

/-- The candidate of the blacklist is still not excluded when its gate is asked. -/
theorem tick_exclusion (hp : p.exclusions = exclusions) :
    Policy.exclusion.tick ((scene config world exclusions).behaviour routine) p =
      match blacklisted config world exclusions false with
      | some c => (.success, (p.exclude routine c.guid world.now).record (.exclude c.guid))
      | none => (.failure, p) := by
  have hcandidate := seen_candidate config world exclusions
  rw [Policy.exclusion, Node.tick_guard, Node.tick_action, Scene.behaviour_holds,
    Scene.behaviour_perform]
  cases hc : blacklisted config world exclusions false with
  | none =>
      rw [hc] at hcandidate
      simp [Gate.isOpen, hcandidate]
  | some c =>
      rw [hc] at hcandidate
      obtain ⟨-, heligible⟩ := Query.isEligible_of_foremost hc
      simp only [Creature.isEligible, Bool.and_eq_true, List.contains_iff_mem, beq_iff_eq]
        at heligible
      have hgate : Gate.isOpen (scene config world exclusions) p .unexcludedCandidate = true := by
        have hblacklist : config.blacklist.isEmpty = false :=
          List.isEmpty_eq_false_iff.mpr (List.ne_nil_of_mem heligible.1.1.1)
        rw [Gate.isOpen, hcandidate, hp]
        simp [scene, hblacklist, heligible.2.2]
      rw [if_pos hgate, Move.perform, hcandidate]
      rfl

theorem verdict_settle (bout : Bout ε) (hrecorded : p.recorded = [])
    (hdone : p.completion.isDone = false) :
    Progress.verdict (p.settle bout) = settle p.exclusions p.calls bout := by
  rcases bout with ⟨_ | ⟨status, decision⟩, env, calls⟩ <;>
    simp [Progress.settle, Progress.verdict, Progress.record, Progress.decision, settle,
      hrecorded, hdone]

theorem tickFirst_engage (hboss : boss config world = some c) (completion : Completion) (env : ε)
    (hdone : completion.isDone = false) :
    Progress.verdict (Node.tickFirst ((scene config world exclusions).behaviour routine)
      [Policy.killOrder, Policy.amnesty, Policy.boss] { exclusions, completion, env }) =
      engage config world exclusions routine c env := by
  rw [Node.tickFirst_cons, tick_killOrder config world exclusions routine _ hboss, engage]
  generalize hopening : routine.attempt
    (if windowOpen config world c then priorityAttempts config world else []) env = opening
  -- What the opening bout leaves if nothing settled it is where the later branches start from.
  cases hsettled : opening.settled with
  | none =>
      rw [Progress.settle_of_vain _ hsettled, if_pos rfl, Node.tickFirst_cons, tick_amnesty]
      simp only [Option.isSome_none, Bool.false_eq_true, if_false]
      split
      next => simp [Progress.verdict, Progress.record, Progress.flush, Progress.decision,
          Exclusions.flush, hdone]
      next =>
        rw [if_pos rfl, Node.tickFirst_singleton,
          tick_boss config world exclusions routine _ hboss]
        exact verdict_settle _ _ rfl hdone
  | some outcome =>
      have hstatus := routine.attempt_settled_ne_failure _ env (hopening ▸ hsettled)
      have hacted : (Progress.settle { exclusions, completion, env } opening).1 ≠ .failure := by
        rw [Progress.settle, hsettled]
        exact hstatus
      rw [if_neg hacted, Option.isSome_some, if_pos rfl]
      exact verdict_settle _ opening rfl hdone

/-- One tick of the whole tree on a task that is not complete comes to the flat verdict. -/
theorem tree_tick_eq_verdict (completion : Completion) (env : ε)
    (hdone : completion.isDone = false) :
    Progress.verdict (Policy.tree.tick ((scene config world exclusions).behaviour routine)
      { exclusions, completion, env }) = verdict config world exclusions routine env := by
  rw [Policy.tree, Node.tick_guard, Node.tick_priority, Scene.behaviour_holds,
    if_pos (by simp [Gate.isOpen, hdone]), Node.tickFirst_cons, verdict]
  have hcompletion := tick_completion config world exclusions routine
    { exclusions, completion, env }
  cases hboss : (boss config world).filter Creature.alive with
  | none =>
      rw [if_pos hboss] at hcompletion
      rw [hcompletion]
      rfl
  | some c =>
      rw [if_neg (by simp [hboss])] at hcompletion
      rw [hcompletion, if_pos rfl, Node.tickFirst_cons,
        tick_exclusion config world exclusions routine _ rfl]
      cases blacklisted config world exclusions false with
      | some add =>
          simp [Progress.verdict, Progress.record, Progress.exclude, Progress.decision,
            Exclusions.add, expiry_eq, hdone]
      | none =>
          simp only [if_true]
          exact tickFirst_engage config world exclusions routine
            (Option.filter_eq_some_iff.mp hboss).1 completion env hdone

end FlatPolicy

end Encounter
