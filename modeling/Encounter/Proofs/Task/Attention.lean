import Encounter.Proofs.Task.Defeat

/-!
# Tasks that keep at it

A task that has its parameters and is not done runs the policy on every tick that finds the host
ready.  Such a tick looks for the boss first: with a living boss before it the task stays as it is
in these respects, and otherwise it is done at once.
-/

namespace Encounter

variable {ε : Type}

namespace Task

/-- A task that has its parameters and can still run the policy. -/
structure Attentive (task : Task) (config : Config) : Prop where
  config_eq : task.config = .ok config
  isDone_eq : task.isDone = false
  not_done : task.phase ≠ .done

theorem attentive_fresh (config : Config) : (fresh (.ok config)).Attentive config where
  config_eq := rfl
  isDone_eq := rfl
  not_done := by simp [fresh]

theorem attentive_ofConfig {config : Config} (hvalid : config.isValid = true) :
    (ofConfig config).Attentive config := by
  have hzero : config.zeroField? = none := Option.isNone_iff_eq_none.mp hvalid
  have hfresh : ofConfig config = fresh (.ok config) := by
    simp [ofConfig, fresh, Config.validate, hzero]
  rw [hfresh]
  exact attentive_fresh config

section Tick

variable {task : Task} {config : Config} (h : task.Attentive config)
include h

theorem Attentive.exists_evaluated {host : Host ε} {env : ε} (hready : host.isReady env = true)
    (routine : CombatRoutine ε) (world : World) :
    ∃ env' opening, task.Evaluated config routine world env' opening
      ((Request.tick host routine world env).serve task) := by
  cases hphase : task.phase with
  | done => exact absurd hphase h.not_done
  | running =>
      exact ⟨_, _, serve_tick_evaluated task host env routine world h.config_eq
        (.inl ⟨hphase, rfl, rfl⟩)⟩
  | notStarted =>
      exact ⟨_, _, serve_tick_evaluated task host env routine world h.config_eq
        (.inr ⟨hphase, hready, rfl, rfl⟩)⟩

variable {routine : CombatRoutine ε} {world : World} {env : ε} {opening : List HostCall}
variable {turn : Turn ε Reply} (hturn : task.Evaluated config routine world env opening turn)
include hturn

theorem Attentive.isDone_evaluated_iff :
    turn.task.isDone = true ↔ (FlatPolicy.boss config world).filter Creature.alive = none := by
  rw [hturn.isDone_iff h.isDone_eq, hturn.completes_iff h.isDone_eq]

theorem Attentive.after_evaluated
    (hboss : (FlatPolicy.boss config world).filter Creature.alive ≠ none) :
    turn.task.Attentive config := by
  have hdone : turn.task.isDone = false := by
    by_contra hdone
    exact hboss ((h.isDone_evaluated_iff hturn).mp (by simpa using hdone))
  refine ⟨hturn.config_eq.trans h.config_eq, hdone, ?_⟩
  rw [hturn.phase, hdone]
  simp

end Tick

end Task

end Encounter
