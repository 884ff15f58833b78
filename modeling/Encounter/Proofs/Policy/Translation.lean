import Encounter.Proofs.Policy.FlatRefinement
import Encounter.Proofs.World.Later

/-!
# The policy on a clock that runs ahead

The five cases compare readings only with one another.  On a world that is `d` later, with the same
exclusions `d` later and a combat routine that answers as before, they come to the same verdict,
with every expiry in it `d` later.
-/

namespace Encounter

variable {ε δ : Type}

def CombatCall.later (d : ℕ) : CombatCall → CombatCall
  | .target guid accepted => .target guid accepted
  | .exclude guid expiry => .exclude guid (expiry.later d)
  | .flush => .flush
  | .perform part status => .perform part status

/-- In environments that `R` relates the two routines answer alike, and they leave them related if
the second is told of every expiry `d` later. -/
structure CombatRoutine.Echoes (d : ℕ) (R : ε → δ → Prop) (routine : CombatRoutine ε)
    (routine' : CombatRoutine δ) : Prop where
  target : ∀ guid {env env'}, R env env' →
    (routine'.target guid env').1 = (routine.target guid env).1 ∧
      R (routine.target guid env).2 (routine'.target guid env').2
  exclude : ∀ guid expiry {env env'}, R env env' →
    R (routine.exclude guid expiry env) (routine'.exclude guid (expiry.later d) env')
  flush : ∀ {env env'}, R env env' → R (routine.flush env) (routine'.flush env')
  perform : ∀ part {env env'}, R env env' →
    (routine'.perform part env').1 = (routine.perform part env).1 ∧
      R (routine.perform part env).2 (routine'.perform part env').2

structure Bout.Later (d : ℕ) (R : ε → δ → Prop) (bout : Bout ε) (bout' : Bout δ) : Prop where
  settled_eq : bout'.settled = bout.settled
  env : R bout.env bout'.env
  calls_eq : bout'.calls = bout.calls.map (CombatCall.later d)

structure Verdict.Later (d : ℕ) (R : ε → δ → Prop) (v : Verdict ε) (v' : Verdict δ) : Prop where
  status_eq : v'.status = v.status
  decision_eq : v'.decision = v.decision
  exclusions : v.exclusions.Later d v'.exclusions
  isDone_eq : v'.isDone = v.isDone
  env : R v.env v'.env
  calls_eq : v'.calls = v.calls.map (CombatCall.later d)

variable {d : ℕ} {R : ε → δ → Prop} {routine : CombatRoutine ε} {routine' : CombatRoutine δ}
variable {env : ε} {env' : δ}

theorem Bout.Later.after {bout : Bout ε} {bout' : Bout δ} (h : bout.Later d R bout')
    (call : CombatCall) : (bout.after call).Later d R (bout'.after (call.later d)) where
  settled_eq := h.settled_eq
  env := h.env
  calls_eq := by rw [Bout.after, Bout.after, h.calls_eq, List.map_cons]

theorem CombatRoutine.Echoes.attempt (h : routine.Echoes d R routine') (attempts : List Attempt)
    (henv : R env env') :
    (routine.attempt attempts env).Later d R (routine'.attempt attempts env') := by
  induction attempts generalizing env env' with
  | nil => exact ⟨rfl, henv, rfl⟩
  | cons attempt rest ih =>
      cases attempt with
      | target guid decision =>
          obtain ⟨hanswer, hnext⟩ := h.target guid henv
          rcases heq : routine.target guid env with ⟨accepted, next⟩
          rcases heq' : routine'.target guid env' with ⟨accepted', next'⟩
          rw [heq, heq'] at hanswer hnext
          obtain rfl : accepted' = accepted := hanswer
          cases accepted' with
          | true => simpa only [CombatRoutine.attempt, heq, heq'] using ⟨rfl, hnext, rfl⟩
          | false =>
              simp only [CombatRoutine.attempt, heq, heq']
              exact (ih hnext).after (.target guid false)
      | perform part =>
          obtain ⟨hanswer, hnext⟩ := h.perform part henv
          rcases heq : routine.perform part env with ⟨status, next⟩
          rcases heq' : routine'.perform part env' with ⟨status', next'⟩
          rw [heq, heq'] at hanswer hnext
          obtain rfl : status' = status := hanswer
          cases status' with
          | success => simpa only [CombatRoutine.attempt, heq, heq'] using ⟨rfl, hnext, rfl⟩
          | running => simpa only [CombatRoutine.attempt, heq, heq'] using ⟨rfl, hnext, rfl⟩
          | failure =>
              simp only [CombatRoutine.attempt, heq, heq']
              exact (ih hnext).after (.perform part .failure)

namespace FlatPolicy

variable {config : Config} {world : World} {exclusions exclusions' : Exclusions}

theorem blacklisted_later (hexclusions : exclusions.Later d exclusions')
    (hroom : world.now.millis.toNat + d < 2 ^ 64) (excluded : Bool) :
    blacklisted config (world.later d) exclusions' excluded =
      blacklisted config world exclusions excluded := by
  have hcontains : ∀ guid, exclusions'.contains guid (world.later d).now =
      exclusions.contains guid world.now := fun guid => hexclusions.contains_eq guid hroom
  simp only [blacklisted, hcontains]
  rfl

theorem settle_later (hexclusions : exclusions.Later d exclusions') {calls calls' : List CombatCall}
    (hcalls : calls' = calls.map (CombatCall.later d)) {bout : Bout ε} {bout' : Bout δ}
    (hbout : bout.Later d R bout') :
    (settle exclusions calls bout).Later d R (settle exclusions' calls' bout') where
  status_eq := congrArg (·.elim Status.failure Prod.fst) hbout.settled_eq
  decision_eq := congrArg (·.map Prod.snd) hbout.settled_eq
  exclusions := hexclusions
  isDone_eq := rfl
  env := hbout.env
  calls_eq := by rw [settle, settle, hcalls, hbout.calls_eq, List.map_append]

variable (hroutine : routine.Echoes d R routine') (hexclusions : exclusions.Later d exclusions')
include hroutine hexclusions

theorem engage_later (hroom : world.now.millis.toNat + d < 2 ^ 64) (boss : Creature)
    (henv : R env env') :
    (engage config world exclusions routine boss env).Later d R
      (engage config (world.later d) exclusions' routine' boss env') := by
  -- What is attempted depends on the world but for its clock.
  have hopeners : (if windowOpen config (world.later d) boss
        then priorityAttempts config (world.later d) else []) =
      if windowOpen config world boss then priorityAttempts config world else [] := rfl
  have hclosers : (if boss.hasAura config.aura then [] else bossAttempts (world.later d) boss) =
      if boss.hasAura config.aura then [] else bossAttempts world boss := rfl
  have hpriority : priority config (world.later d) = priority config world := rfl
  simp only [engage, hopeners, hclosers, hpriority, blacklisted_later hexclusions hroom]
  generalize (if windowOpen config world boss then priorityAttempts config world else []) = openers
  generalize (if boss.hasAura config.aura then [] else bossAttempts world boss) = closers
  have hopening := hroutine.attempt openers henv
  rw [hopening.settled_eq]
  split
  next => exact settle_later hexclusions rfl hopening
  next =>
    split
    next =>
      refine ⟨rfl, rfl, Exclusions.later_empty d, rfl, hroutine.flush hopening.env, ?_⟩
      rw [hopening.calls_eq, List.map_append]
      rfl
    next => exact settle_later hexclusions hopening.calls_eq (hroutine.attempt closers hopening.env)

theorem verdict_later (hroom : world.now.millis.toNat + d + 300000 < 2 ^ 64) (henv : R env env') :
    (verdict config world exclusions routine env).Later d R
      (verdict config (world.later d) exclusions' routine' env') := by
  have hspan : world.now.millis.toNat + d + Exclusions.lifetime.millis < 2 ^ 64 := by
    have hlifetime : Exclusions.lifetime.millis = 300000 := by decide
    omega
  have hboss : boss config (world.later d) = boss config world := rfl
  have hexpiry : expiry (world.later d) = (expiry world).later d := by
    rw [← expiry_eq, ← expiry_eq]
    exact Timestamp.after_later hspan
  unfold verdict
  rw [hboss, blacklisted_later hexclusions (by omega), hexpiry]
  split
  next => exact ⟨rfl, rfl, hexclusions, rfl, henv, rfl⟩
  next =>
    split
    next c _ =>
      refine ⟨rfl, rfl, ?_, rfl, hroutine.exclude c.guid _ henv, rfl⟩
      rw [← hexpiry, ← expiry_eq, ← expiry_eq]
      exact hexclusions.add c.guid hspan
    next => exact engage_later hroutine hexclusions (by omega) _ henv

end FlatPolicy

end Encounter
