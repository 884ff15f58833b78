import Encounter.Proofs.Tree.Transport
import Encounter.Task

/-!
# Transport between environments

A task knows its environment only through the host and the combat routine.  A map of environments
that carries both along, so that every question is answered alike and every effect goes with the
map, therefore carries whole ticks along: same answer, same task, same calls, and the environment
mapped.  In this way what stands beside the environment of a tick is seen to have no part in it.
-/

namespace Encounter

variable {ε δ : Type}

/-! ## The policy -/

structure CombatRoutine.Hom (routine : CombatRoutine ε) (routine' : CombatRoutine δ)
    (f : ε → δ) : Prop where
  map_target : ∀ guid env, routine'.target guid (f env) = Prod.map id f (routine.target guid env)
  map_exclude : ∀ guid expiry env,
    routine'.exclude guid expiry (f env) = f (routine.exclude guid expiry env)
  map_flush : ∀ env, routine'.flush (f env) = f (routine.flush env)
  map_perform : ∀ part env, routine'.perform part (f env) = Prod.map id f (routine.perform part env)

def Progress.map (f : ε → δ) (p : Progress ε) : Progress δ where
  exclusions := p.exclusions
  completion := p.completion
  env := f p.env
  calls := p.calls
  recorded := p.recorded

section Policy

variable {routine : CombatRoutine ε} {routine' : CombatRoutine δ} {f : ε → δ}

theorem CombatRoutine.Hom.target_map (h : routine.Hom routine' f) (guid : Guid)
    (p : Progress ε) :
    (p.map f).target routine' guid = Prod.map id (Progress.map f) (p.target routine guid) := by
  have htarget : routine'.target guid (p.map f).env =
      Prod.map id f (routine.target guid p.env) := h.map_target guid p.env
  unfold Progress.target
  rw [htarget]
  rfl

theorem CombatRoutine.Hom.perform_map (h : routine.Hom routine' f) (part : RoutinePart)
    (p : Progress ε) :
    (p.map f).perform routine' part = Prod.map id (Progress.map f) (p.perform routine part) := by
  have hperform : routine'.perform part (p.map f).env =
      Prod.map id f (routine.perform part p.env) := h.map_perform part p.env
  unfold Progress.perform
  rw [hperform]
  rfl

theorem CombatRoutine.Hom.engage_map (h : routine.Hom routine' f) (decision : Guid → Decision)
    (p : Progress ε) (creature : Option Creature) :
    Move.engage routine' decision (p.map f) creature =
      Prod.map id (Progress.map f) (Move.engage routine decision p creature) := by
  cases creature with
  | none => rfl
  | some creature =>
      unfold Move.engage
      simp only [h.target_map]
      rcases p.target routine creature.guid with ⟨_ | _, p'⟩ <;> rfl

theorem CombatRoutine.Hom.delegate_map (h : routine.Hom routine' f) (part : RoutinePart)
    (p : Progress ε) :
    Move.delegate routine' part (p.map f) =
      Prod.map id (Progress.map f) (Move.delegate routine part p) := by
  unfold Move.delegate
  rw [h.perform_map]
  rcases p.perform routine part with ⟨_ | _ | _, p'⟩ <;> rfl

theorem CombatRoutine.Hom.move_map (h : routine.Hom routine' f) (scene : Scene)
    (p : Progress ε) (move : Move) :
    move.perform routine' scene (p.map f) =
      Prod.map id (Progress.map f) (move.perform routine scene p) := by
  cases move with
  | complete => rfl
  | excludeCandidate =>
      cases hcandidate : scene.seen.candidate with
      | none => simp [Move.perform, hcandidate]
      | some creature =>
          simp [Move.perform, hcandidate, Progress.exclude, Progress.record, Progress.map,
            h.map_exclude]
  | targetPriority => exact h.engage_map _ p _
  | flushExclusions =>
      simp [Move.perform, Progress.flush, Progress.record, Progress.map, h.map_flush]
  | targetBoss => exact h.engage_map _ p _
  | heal | combatBuff | combat => exact h.delegate_map _ p

theorem CombatRoutine.Hom.behaviour (h : routine.Hom routine' f) (scene : Scene) :
    (scene.behaviour routine).Hom (scene.behaviour routine') (Progress.map f) where
  map_holds gate p := by cases gate <;> rfl
  map_perform move p := h.move_map scene p move

end Policy

/-! ## The task -/

structure Host.Hom (host : Host ε) (host' : Host δ) (f : ε → δ) : Prop where
  map_isIdle : ∀ env, host'.isIdle (f env) = host.isIdle env
  map_isComposable : ∀ env, host'.isComposable (f env) = host.isComposable env
  map_tell : ∀ call env, host'.tell call (f env) = f (host.tell call env)

def Turn.map {ρ : Type} (f : ε → δ) (turn : Turn ε ρ) : Turn δ ρ where
  answer := turn.answer
  task := turn.task
  env := f turn.env
  calls := turn.calls

namespace Task

variable {host : Host ε} {host' : Host δ} {routine : CombatRoutine ε}
variable {routine' : CombatRoutine δ} {f : ε → δ} (task : Task)

theorem start_map (hhost : host.Hom host' f) (env : ε) :
    task.start host' (f env) = (task.start host env).map f := by
  have hready : host'.isReady (f env) = host.isReady env := by
    rw [Host.isReady, Host.isReady, hhost.map_isIdle, hhost.map_isComposable]
  unfold start
  rw [hready, hhost.map_tell]
  split <;> try rfl
  split <;> rfl

theorem withdraw_map (hhost : host.Hom host' f) (env : ε) :
    task.withdraw host' (f env) = (task.withdraw host env).map f := by
  unfold withdraw
  rw [hhost.map_tell, hhost.map_tell]
  split <;> rfl

theorem runPolicy_map (hroutine : routine.Hom routine' f) (config : Config) (world : World)
    (env : ε) :
    task.runPolicy config routine' world (f env) =
      Prod.map id (Progress.map f) (task.runPolicy config routine world env) :=
  (hroutine.behaviour (task.scene config world)).tick_map Policy.tree (task.progress env)

theorem evaluate_map (hhost : host.Hom host' f) (hroutine : routine.Hom routine' f)
    (world : World) (env : ε) :
    task.evaluate host' routine' world (f env) =
      (task.evaluate host routine world env).map f := by
  unfold evaluate
  cases task.config with
  | error cause => rfl
  | ok config =>
      rcases hanswer : task.runPolicy config routine world env with ⟨status, p⟩
      have hanswer' : task.runPolicy config routine' world (f env) = (status, p.map f) := by
        rw [task.runPolicy_map hroutine, hanswer]
        rfl
      have hwithdraw : (task.adopt (p.map f)).withdraw host' (p.map f).env =
          ((task.adopt p).withdraw host p.env).map f := (task.adopt p).withdraw_map hhost p.env
      have hdone : (p.map f).completion = p.completion := rfl
      simp only [hanswer, hanswer', hwithdraw, hdone]
      split <;> rfl

/-- Ticks are carried along by every map that carries the host and the routine along. -/
theorem tick_map (hhost : host.Hom host' f) (hroutine : routine.Hom routine' f)
    (world : World) (env : ε) :
    task.tick host' routine' world (f env) = (task.tick host routine world env).map f := by
  unfold tick
  cases hphase : task.phase with
  | done => rfl
  | running => exact task.evaluate_map hhost hroutine world env
  | notStarted =>
      simp only [task.start_map hhost]
      have hanswer : ((task.start host env).map f).answer = (task.start host env).answer := rfl
      have hevaluate : ((task.start host env).map f).task.evaluate host' routine' world
          ((task.start host env).map f).env =
            ((task.start host env).task.evaluate host routine world (task.start host env).env).map
              f := (task.start host env).task.evaluate_map hhost hroutine world _
      rw [hanswer, hevaluate]
      rcases (task.start host env).answer with _ | activation
      · rfl
      · cases activation <;> rfl

theorem stop_map (hhost : host.Hom host' f) (env : ε) :
    task.stop host' (f env) = (task.stop host env).map f := by
  unfold stop
  split
  · rfl
  · exact task.withdraw_map hhost env
  · rfl

end Task

end Encounter
