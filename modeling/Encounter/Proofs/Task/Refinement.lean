import Encounter.Proofs.Policy.FlatRefinement
import Encounter.Proofs.Task.Run

/-!
# A tick is the flat verdict

What a running task reports, requests and keeps is the verdict of the five cases on its exclusions,
whatever they are.  A task that has come to run is not complete, so nothing is asked of it beyond
that it is running.
-/

namespace Encounter

variable {ε : Type}

namespace Task

theorem runPolicy_verdict (task : Task) (config : Config) (routine : CombatRoutine ε)
    (world : World) (env : ε) (hdone : task.isDone = false) :
    Progress.verdict (task.runPolicy config routine world env) =
      FlatPolicy.verdict config world task.exclusions routine env :=
  FlatPolicy.tree_tick_eq_verdict config world task.exclusions routine task.completion env hdone

theorem Evaluated.eq_verdict {task : Task} {config : Config} {routine : CombatRoutine ε}
    {world : World} {env : ε} {opening : List HostCall} {turn : Turn ε Reply}
    (h : task.Evaluated config routine world env opening turn) (hdone : task.isDone = false) :
    let flat := FlatPolicy.verdict config world task.exclusions routine env
    turn.answer = .tick (.ok (.evaluated flat.status flat.decision)) ∧
      turn.combatCalls = flat.calls ∧ turn.task.exclusions = flat.exclusions ∧
      turn.task.isDone = flat.isDone := by
  intro flat
  have hflat : flat = Progress.verdict (task.runPolicy config routine world env) :=
    (task.runPolicy_verdict config routine world env hdone).symm
  rw [hflat]
  exact ⟨h.answer, h.combatCalls_eq, h.exclusions, congrArg Completion.isDone h.completion⟩

theorem Evaluated.evaluation?_eq_verdict {task : Task} {config : Config}
    {routine : CombatRoutine ε} {world : World} {env : ε} {opening : List HostCall}
    {turn : Turn ε Reply} (h : task.Evaluated config routine world env opening turn)
    (hdone : task.isDone = false) :
    let flat := FlatPolicy.verdict config world task.exclusions routine env
    turn.answer.evaluation? = some (flat.status, flat.decision) := by
  intro flat
  rw [(h.eq_verdict hdone).1]
  rfl

/-- However a task has come to run, and whatever it excludes, its next tick reports the status and
the decision of the flat verdict, makes its requests in their order and keeps its exclusions and
its completion flag. -/
theorem tick_eq_flat_verdict (params : Except ConfigError Config) (requests : List (Request ε))
    (hphase : ((fresh params).after requests).phase = .running) (exclusions : Exclusions)
    (host : Host ε) (routine : CombatRoutine ε) (world : World) (env : ε) :
    ∃ config, params = .ok config ∧
      let task : Task := { (fresh params).after requests with exclusions }
      let turn := task.tick host routine world env
      let flat := FlatPolicy.verdict config world exclusions routine env
      turn.answer = .ok (.evaluated flat.status flat.decision) ∧
        turn.combatCalls = flat.calls ∧ turn.task.exclusions = flat.exclusions ∧
        turn.task.isDone = flat.isDone := by
  obtain ⟨⟨config, rfl⟩, hdone⟩ := running_after_fresh hphase
  refine ⟨config, rfl, ?_⟩
  intro task turn flat
  -- Other exclusions change nothing of the phase, the parameters and the completion of the run.
  have hconfig : task.config = .ok config := config_after (fresh (.ok config)) requests
  have hsame : ({ task with phase := .running } : Task) = task := by
    rw [← hphase]
  have hevaluated := evaluate_evaluated hconfig host routine world env []
  rw [hsame] at hevaluated
  have hturn : turn = task.evaluate host routine world env := by
    have hrunning : task.phase = .running := hphase
    simp only [turn, tick, hrunning]
  obtain ⟨hanswer, hcalls, hexclusions, hisDone⟩ := hevaluated.eq_verdict hdone
  rw [hturn]
  exact ⟨Reply.tick.inj hanswer, hcalls, hexclusions, hisDone⟩

/-- A task that was deferred once and then started meets a shielded boss, a creature of the kill
order and one of the blacklist, which it takes to be excluded already. -/
theorem tick_eq_flat_verdict_shielded :
    let busy : Host Bool := { isIdle := id, isComposable := fun _ => true, tell := fun _ env => env }
    let params : Except ConfigError Config := .ok
      { boss := ⟨1⟩, aura := ⟨9⟩, blacklist := [⟨3⟩, ⟨1⟩], killOrder := [⟨2⟩] }
    let requests : List (Request Bool) := [.start busy false, .start busy true]
    let excluded := Exclusions.empty.insert ⟨30⟩ ⟨5000⟩
    let routine : CombatRoutine Bool :=
      { target := fun _ env => (false, !env)
        exclude := fun _ _ env => env
        flush := fun env => env
        perform := fun part env => (if part = .combatBuff then .running else .failure, env) }
    let world : World :=
      { now := ⟨4999⟩
        target := some ⟨10⟩
        creatures :=
          [{ guid := ⟨10⟩, kind := ⟨1⟩, distance := ⟨0⟩, auras := [⟨9⟩] },
            { guid := ⟨20⟩, kind := ⟨2⟩, distance := ⟨0x41000000⟩ },
            { guid := ⟨30⟩, kind := ⟨3⟩, distance := ⟨0⟩ }] }
    ((fresh params).after requests).phase = .running ∧
      ∃ config, params = .ok config ∧
        let task : Task := { (fresh params).after requests with exclusions := excluded }
        let turn := task.tick busy routine world true
        let flat := FlatPolicy.verdict config world excluded routine true
        turn.answer = .ok (.evaluated flat.status flat.decision) ∧
          turn.combatCalls = flat.calls ∧ turn.task.exclusions = flat.exclusions ∧
          turn.task.isDone = flat.isDone := by
  intro busy params requests excluded routine world
  have hphase : ((fresh params).after requests).phase = .running := by decide
  exact ⟨hphase, tick_eq_flat_verdict params requests hphase excluded busy routine world true⟩

end Task

end Encounter
