import Encounter.Proofs.Task.Request

/-!
# What the calls leave behind

Part of what a combat routine keeps may be determined by what has been asked of it and answered, one
call after the other.  A tick reaches the routine through no more than the calls it records, so that
part is after a tick what its calls make of what it was before.
-/

namespace Encounter

variable {ε β : Type}

/-- What `view` shows of an environment goes from call to call as `note` tells. -/
structure CombatRoutine.Follows (routine : CombatRoutine ε) (view : ε → β)
    (note : β → CombatCall → β) : Prop where
  target : ∀ guid env, view (routine.target guid env).2 =
    note (view env) (.target guid (routine.target guid env).1)
  exclude : ∀ guid expiry env,
    view (routine.exclude guid expiry env) = note (view env) (.exclude guid expiry)
  flush : ∀ env, view (routine.flush env) = note (view env) .flush
  perform : ∀ part env, view (routine.perform part env).2 =
    note (view env) (.perform part (routine.perform part env).1)

def Progress.Traced (view : ε → β) (note : β → CombatCall → β) (before : β) (p : Progress ε) :
    Prop :=
  view p.env = p.calls.foldl note before

variable {routine : CombatRoutine ε} {view : ε → β} {note : β → CombatCall → β} {before : β}
variable {p : Progress ε}

namespace CombatRoutine.Follows

variable (h : routine.Follows view note)
include h

theorem engage (hp : p.Traced view note before) (decision : Guid → Decision)
    (creature : Option Creature) :
    (Move.engage routine decision p creature).2.Traced view note before := by
  cases creature with
  | none => exact hp
  | some creature =>
      have hview := h.target creature.guid p.env
      rcases hanswer : routine.target creature.guid p.env with ⟨accepted, env⟩
      rw [hanswer, hp] at hview
      cases accepted <;>
        simpa [Move.engage, Progress.target, Progress.record, Progress.Traced, hanswer] using hview

theorem delegate (hp : p.Traced view note before) (part : RoutinePart) :
    (Move.delegate routine part p).2.Traced view note before := by
  have hview := h.perform part p.env
  rcases hanswer : routine.perform part p.env with ⟨status, env⟩
  rw [hanswer, hp] at hview
  cases status <;>
    simpa [Move.delegate, Progress.perform, Progress.record, Progress.Traced, hanswer] using hview

theorem move (hp : p.Traced view note before) (scene : Scene) (move : Move) :
    (move.perform routine scene p).2.Traced view note before := by
  cases move with
  | complete => exact hp
  | excludeCandidate =>
      cases hcandidate : scene.seen.candidate with
      | none =>
          simp only [Move.perform, hcandidate]
          exact hp
      | some creature =>
          have hview := h.exclude creature.guid (scene.now.after Exclusions.lifetime) p.env
          rw [hp] at hview
          simpa [Move.perform, hcandidate, Progress.exclude, Progress.record, Progress.Traced,
            Exclusions.add] using hview
  | targetPriority => exact h.engage hp _ _
  | flushExclusions =>
      have hview := h.flush p.env
      rw [hp] at hview
      simpa [Move.perform, Progress.flush, Progress.record, Progress.Traced] using hview
  | targetBoss => exact h.engage hp _ _
  | heal | combatBuff | combat => exact h.delegate hp _

theorem tree (hp : p.Traced view note before) (scene : Scene) (tree : PolicyTree) :
    (tree.tick (scene.behaviour routine) p).2.Traced view note before := by
  have houtcome : Outcome (Progress.Traced view note before)
      (fun _ => Progress.Traced view note before) (tree.tick (scene.behaviour routine) p) :=
    Node.tick_outcome (fun move _ hp => ⟨fun _ => h.move hp scene move,
      fun _ => h.move hp scene move⟩) tree p hp
  by_cases hstatus : (tree.tick (scene.behaviour routine) p).1 = .failure
  · exact houtcome.kept hstatus
  · exact houtcome.ended hstatus

end CombatRoutine.Follows

/-! ## Whole ticks -/

theorem Turn.combatCalls_afterCalls {ρ : Type} (turn : Turn ε ρ) (calls : List Call) :
    (turn.afterCalls calls).combatCalls = calls.filterMap Call.combat? ++ turn.combatCalls :=
  List.filterMap_append

namespace Task

variable {host : Host ε} (task : Task)

section Host

variable (hhost : ∀ call env, view (host.tell call env) = view env)
include hhost

theorem view_start (env : ε) : view (task.start host env).env = view env := by
  unfold start
  split <;> try rfl
  split
  · exact hhost _ _
  · rfl

theorem view_withdraw (env : ε) : view (task.withdraw host env).env = view env := by
  unfold withdraw
  split
  · rw [hhost, hhost]
  · rfl
  · rfl

theorem view_stop (env : ε) : view (task.stop host env).env = view env := by
  unfold stop
  split
  · rfl
  · exact task.view_withdraw hhost env
  · rfl

end Host

theorem combatCalls_start (host : Host ε) (env : ε) : (task.start host env).combatCalls = [] := by
  unfold start
  split <;> try rfl
  split <;> rfl

theorem combatCalls_withdraw (host : Host ε) (env : ε) :
    (task.withdraw host env).combatCalls = [] := by
  unfold withdraw
  split <;> rfl

theorem combatCalls_stop (host : Host ε) (env : ε) : (task.stop host env).combatCalls = [] := by
  unfold stop
  split
  · rfl
  · exact task.combatCalls_withdraw host env
  · rfl

variable (h : routine.Follows view note) (hhost : ∀ call env, view (host.tell call env) = view env)
include h hhost

theorem view_evaluate (world : World) (env : ε) :
    let turn := task.evaluate host routine world env
    view turn.env = turn.combatCalls.foldl note (view env) := by
  intro turn
  cases hconfig : task.config with
  | error cause => simp [turn, evaluate, hconfig, Turn.combatCalls]
  | ok config =>
      have htraced : (task.runPolicy config routine world env).2.Traced view note (view env) :=
        h.tree (p := task.progress env) rfl (task.scene config world) Policy.tree
      rcases hanswer : task.runPolicy config routine world env with ⟨status, p⟩
      rw [hanswer] at htraced
      simp only [turn, evaluate, hconfig, hanswer]
      split
      next =>
        have hcalls : (((task.adopt p).withdraw host p.env).withAnswer
            (Except.ok (TickResult.evaluated status p.decision) : Except TaskError TickResult)
            ).combatCalls = [] := (task.adopt p).combatCalls_withdraw host p.env
        rw [Turn.combatCalls_afterCalls, hcalls, filterMap_combat?_map_combat, List.append_nil]
        exact ((task.adopt p).view_withdraw hhost p.env).trans htraced
      next =>
        rw [Turn.combatCalls, filterMap_combat?_map_combat]
        exact htraced

/-- After a tick the routine keeps what the calls of the tick make of what it has kept before. -/
theorem view_tick (world : World) (env : ε) :
    let turn := task.tick host routine world env
    view turn.env = turn.combatCalls.foldl note (view env) := by
  intro turn
  have hview := task.view_start hhost env
  have hcalls := task.combatCalls_start host env
  have hbegun : ∀ answer : Except TaskError TickResult,
      let turn := (task.start host env).withAnswer answer
      view turn.env = turn.combatCalls.foldl note (view env) := by
    intro answer turn
    have hnone : turn.combatCalls = [] := hcalls
    rw [hnone]
    exact hview
  unfold turn tick
  cases task.phase with
  | done => rfl
  | running => exact task.view_evaluate h hhost world env
  | notStarted =>
      have hevaluate := (task.start host env).task.view_evaluate h hhost world
        (task.start host env).env
      simp only
      rcases (task.start host env).answer with cause | activation
      · exact hbegun _
      · cases activation with
        | deferred => exact hbegun _
        | started | alreadyRunning | finished =>
            have hnone : (task.start host env).calls.filterMap Call.combat? = [] := hcalls
            rw [Turn.combatCalls_afterCalls, hnone, List.nil_append, ← hview]
            exact hevaluate

end Task

end Encounter
