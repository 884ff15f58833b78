import Encounter.Proofs.Policy.Warrant
import Encounter.Proofs.Task.Completion
import Encounter.Proofs.Task.Refinement

/-!
# What completes a task

A tick looks at one boss only, the first creature of the boss's kind, living or dead.  Completion
is therefore told by the order of the list: a corpse that comes before every living creature of its
kind completes the task for good, and a living boss that comes before every corpse keeps it going.
-/

namespace Encounter

variable {ε : Type}

theorem Config.eq_of_validate {config config' : Config} (h : config.validate = .ok config') :
    config' = config := by
  unfold validate at h
  split at h
  · simp at h
  · exact (Except.ok.inj h).symm

namespace FlatPolicy

theorem boss_filter_alive_eq_none_iff {config : Config} {world : World} :
    (boss config world).filter Creature.alive = none ↔
      (∀ c ∈ world.creatures, c.kind ≠ config.boss) ∨
        ∃ before corpse after, world.creatures = before ++ corpse :: after ∧
          (∀ c ∈ before, c.kind ≠ config.boss) ∧ corpse.kind = config.boss ∧
            corpse.alive = false := by
  rw [Option.filter_eq_none_iff]
  constructor
  · intro hdead
    cases hboss : boss config world with
    | none =>
        left
        simpa [boss] using hboss
    | some corpse =>
        right
        obtain ⟨hkind, before, after, hsplit, hbefore⟩ :=
          List.find?_eq_some_iff_append.mp hboss
        refine ⟨before, corpse, after, hsplit, ?_, by simpa using hkind, ?_⟩
        · simpa using hbefore
        · simpa using hdead corpse hboss
  · rintro (hgone | ⟨before, corpse, after, hsplit, hbefore, hkind, hdead⟩) c hboss
    · have hmem := List.mem_of_find?_eq_some hboss
      have hkind := List.find?_some hboss
      exact absurd (by simpa using hkind) (hgone c hmem)
    · have hfirst : boss config world = some corpse := by
        apply List.find?_eq_some_iff_append.mpr
        exact ⟨by simpa using hkind, before, after, hsplit, by simpa using hbefore⟩
      obtain rfl := Option.some.inj (hfirst.symm.trans hboss)
      simp [hdead]

end FlatPolicy

namespace Task

theorem Evaluated.completes_iff {task : Task} {config : Config} {routine : CombatRoutine ε}
    {world : World} {env : ε} {opening : List HostCall} {turn : Turn ε Reply}
    (h : task.Evaluated config routine world env opening turn) (hdone : task.isDone = false) :
    turn.answer.completes ↔ (FlatPolicy.boss config world).filter Creature.alive = none := by
  have hverdict : (FlatPolicy.verdict config world task.exclusions routine env).decision =
      some .complete ↔ (FlatPolicy.boss config world).filter Creature.alive = none :=
    FlatPolicy.decision_eq_complete_iff
  rw [← hverdict, Reply.completes, h.evaluation?_eq_verdict hdone]
  simp

/-- A tick of a task on `config` completes it exactly if it runs the policy and finds no living
boss. -/
theorem Coherent.completes_tick_iff {task : Task} (h : task.Coherent) {config : Config}
    (hconfig : task.config = config.validate) (host : Host ε) (routine : CombatRoutine ε)
    (world : World) (env : ε) :
    let turn := (Request.tick host routine world env).serve task
    turn.answer.completes ↔ turn.answer.evaluation?.isSome = true ∧
      (FlatPolicy.boss config world).filter Creature.alive = none := by
  intro turn
  cases hevaluation : turn.answer.evaluation? with
  | none => simp [Reply.not_completes hevaluation]
  | some report =>
      obtain ⟨_, _, _, _, env', config', opening, hrequest, hconfig', hdone, hturn⟩ :=
        h.evaluated_of_report hevaluation
      obtain ⟨rfl, rfl, rfl, rfl⟩ := Request.tick.inj hrequest
      obtain rfl := Config.eq_of_validate (hconfig.symm.trans hconfig')
      rw [hturn.completes_iff hdone]
      simp

/-- In every run, a tick completes the task exactly if it runs the policy on a world without a
creature of the boss's kind, or with a corpse as the first of them; and then the task is over. -/
theorem completes_iff_first_boss_dead (config : Config) (requests : List (Request ε))
    (host : Host ε) (routine : CombatRoutine ε) (world : World) (env : ε) :
    let task := (ofConfig config).after requests
    let turn := (Request.tick host routine world env).serve task
    (turn.answer.completes ↔ turn.answer.evaluation?.isSome = true ∧
      ((∀ c ∈ world.creatures, c.kind ≠ config.boss) ∨
        ∃ before corpse after, world.creatures = before ++ corpse :: after ∧
          (∀ c ∈ before, c.kind ≠ config.boss) ∧ corpse.kind = config.boss ∧
            corpse.alive = false)) ∧
      (turn.answer.completes → turn.task.phase = .done ∧
        ∀ later : List (Request ε), ∀ t ∈ turn.task.turns later, t.answer.evaluation? = none) := by
  intro task turn
  have hcoherent : task.Coherent := (coherent_fresh config.validate).after requests
  have hconfig : task.config = config.validate := config_after (ofConfig config) requests
  constructor
  · rw [← FlatPolicy.boss_filter_alive_eq_none_iff]
    exact hcoherent.completes_tick_iff hconfig host routine world env
  · intro hcompletes
    have hphase := hcoherent.phase_of_completes hcompletes
    refine ⟨hphase, fun later t hmem => ?_⟩
    rw [turns_of_done hphase] at hmem
    obtain ⟨request, -, rfl⟩ := List.mem_map.mp hmem
    exact request.evaluation?_finished

/-- Completion does not mean that no boss is alive: a fresh task completes on a corpse that is
listed before a living creature of its kind. -/
theorem completes_beside_living_boss :
    ¬ ∀ (config : Config) (requests : List (Request Unit)) (host : Host Unit)
        (routine : CombatRoutine Unit) (world : World), config.isValid = true →
        ((Request.tick host routine world ()).serve
          ((ofConfig config).after requests)).answer.completes →
        ∀ c ∈ world.creatures, c.kind = config.boss → c.alive = false := by
  intro hclaim
  let config : Config := { boss := ⟨100⟩ }
  let living : Creature := { guid := ⟨2⟩, kind := ⟨100⟩, distance := ⟨0⟩ }
  let world : World :=
    { creatures := [{ guid := ⟨1⟩, kind := ⟨100⟩, distance := ⟨0⟩, alive := false }, living] }
  let requests : List (Request Unit) := []
  have hcompletes : ((Request.tick .welcoming .obedient world ()).serve
      ((ofConfig config).after requests)).answer.completes := ⟨.success, by decide +kernel⟩
  have hdead : living.alive = false :=
    hclaim config requests .welcoming .obedient world (by decide) hcompletes living
      (by simp [world]) rfl
  simp [living] at hdead

end Task

end Encounter
