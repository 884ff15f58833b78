import Encounter.Proofs.Task.Run
import Encounter.Proofs.World.Visibility

/-!
# What a task is indifferent to

The world of a tick reaches the policy through its clock and its sightings alone.  A tick on another
world that shows the same is therefore the same turn in every respect, and as the turn hands on all
that the next request finds, so is the rest of the run.  Two changes of a world that show nothing
are the loss of irrelevant creatures and, where nothing is ambiguous, another order.
-/

namespace Encounter

variable {ε : Type}

/-! ## Changes that do not show -/

/-- The same world without some creatures that are irrelevant to the configuration. -/
structure World.ThinnedFor (config : Config) (w w' : World) : Prop where
  now_eq : w'.now = w.now
  target_eq : w'.target = w.target
  creatures : Thinned (Creature.Irrelevant config w.target) w.creatures w'.creatures

/-- The same world, unambiguous to the configuration, with its creatures in another order. -/
structure World.ReorderedFor (config : Config) (w w' : World) : Prop where
  now_eq : w'.now = w.now
  target_eq : w'.target = w.target
  unambiguous : w.Unambiguous config.boss
  perm : w'.creatures.Perm w.creatures

theorem World.ThinnedFor.showsAs {config : Config} {w w' : World} (h : w.ThinnedFor config w') :
    w.ShowsAs config w' := by
  have hw' : w' = { w with creatures := w'.creatures } := by rw [← h.now_eq, ← h.target_eq]
  rw [hw']
  exact World.showsAs_of_thinned h.creatures

theorem World.ReorderedFor.showsAs {config : Config} {w w' : World}
    (h : w.ReorderedFor config w') : w.ShowsAs config w' := by
  have hw' : w' = { w with creatures := w'.creatures } := by rw [← h.now_eq, ← h.target_eq]
  rw [hw']
  exact h.unambiguous.showsAs h.perm

/-- The same request, or one for a tick on a world that differs as a configuration, if the task has
got one, lets it differ. -/
inductive Request.Varies (params : Except ConfigError Config)
    (differs : Config → World → World → Prop) : Request ε → Request ε → Prop
  | same (request : Request ε) : Varies params differs request request
  | tick (host : Host ε) (routine : CombatRoutine ε) (env : ε) {world world' : World}
      (h : ∀ config, params = .ok config → differs config world world') :
      Varies params differs (.tick host routine world env) (.tick host routine world' env)

theorem Request.Varies.mono {params : Except ConfigError Config}
    {differs differs' : Config → World → World → Prop} {request request' : Request ε}
    (h : Request.Varies params differs request request')
    (himp : ∀ {config world world'}, differs config world world' → differs' config world world') :
    Request.Varies params differs' request request' := by
  cases h with
  | same => exact .same request
  | tick host routine env h =>
      exact .tick host routine env fun config hconfig => himp (h config hconfig)

namespace Task

/-! ## One tick -/

section Tick

variable {task : Task} {world world' : World}
variable (h : ∀ config, task.config = .ok config → world.ShowsAs config world')
include h

theorem evaluate_of_showsAs (host : Host ε) (routine : CombatRoutine ε) (env : ε) :
    task.evaluate host routine world' env = task.evaluate host routine world env := by
  unfold evaluate
  cases hconfig : task.config with
  | error cause => rfl
  | ok config =>
      have hshows := h config hconfig
      have hscene : task.scene config world' = task.scene config world := by
        unfold scene
        rw [Sightings.observe_eq hshows, hshows.now_eq]
      have hrun : task.runPolicy config routine world' env =
          task.runPolicy config routine world env := by
        unfold runPolicy
        rw [hscene]
      simp only [hrun]

theorem tick_of_showsAs (host : Host ε) (routine : CombatRoutine ε) (env : ε) :
    task.tick host routine world' env = task.tick host routine world env := by
  unfold tick
  cases hphase : task.phase with
  | done => rfl
  | running => exact evaluate_of_showsAs h host routine env
  | notStarted =>
      have hbegun : (task.start host env).task.config = task.config :=
        config_serve task (.start host env)
      have hevaluate := evaluate_of_showsAs (hbegun ▸ h) host routine (task.start host env).env
      simp only [hevaluate]

end Tick

/-! ## Whole runs -/

theorem serve_of_showsAs {task : Task} {request request' : Request ε}
    (h : request.Varies task.config World.ShowsAs request') :
    request'.serve task = request.serve task := by
  cases h with
  | same => rfl
  | tick host routine env h => simp only [Request.serve, tick_of_showsAs h host routine env]

theorem turns_of_showsAs {task : Task} {requests requests' : List (Request ε)}
    (h : List.Forall₂ (Request.Varies task.config World.ShowsAs) requests requests') :
    task.turns requests' = task.turns requests ∧ task.after requests' = task.after requests := by
  generalize hparams : task.config = params at h
  induction h generalizing task with
  | nil => exact ⟨rfl, rfl⟩
  | @cons request request' rest rest' hfirst _ ih =>
      have hserve : request'.serve task = request.serve task := by
        rw [← hparams] at hfirst
        exact serve_of_showsAs hfirst
      obtain ⟨hturns, hafter⟩ := ih ((config_serve task request).trans hparams)
      rw [turns, turns, after, after, hserve]
      exact ⟨congrArg _ hturns, hafter⟩

variable {params : Except ConfigError Config} {requests requests' : List (Request ε)}

/-- Creatures that are neither of the boss's kind nor the player's target, and of no kind on either
list or dead or at no finite distance, change nothing in any run, wherever they are missing. -/
theorem turns_eq_of_thinned
    (h : List.Forall₂ (Request.Varies params World.ThinnedFor) requests requests') :
    (fresh params).turns requests' = (fresh params).turns requests ∧
      (fresh params).after requests' = (fresh params).after requests :=
  turns_of_showsAs (h.imp fun _ _ hvaries => hvaries.mono World.ThinnedFor.showsAs)

/-- Missing from the first of two worlds are a creature of no listed kind that bears the boss's
identity, a dead one of the kill order and one of the blacklist at no distance. -/
theorem turns_eq_of_thinned_shielded :
    let config : Config :=
      { boss := ⟨100⟩, aura := ⟨7⟩, blacklist := [⟨300⟩], killOrder := [⟨200⟩] }
    let boss : Creature := { guid := ⟨1⟩, kind := ⟨100⟩, distance := ⟨0⟩, auras := [⟨7⟩] }
    let prey : Creature := { guid := ⟨2⟩, kind := ⟨200⟩, distance := ⟨0⟩ }
    let add : Creature := { guid := ⟨3⟩, kind := ⟨300⟩, distance := ⟨0⟩ }
    let ghost : Creature := { guid := ⟨1⟩, kind := ⟨999⟩, distance := ⟨0⟩ }
    let corpse : Creature := { guid := ⟨4⟩, kind := ⟨200⟩, distance := ⟨0⟩, alive := false }
    let lost : Creature := { guid := ⟨5⟩, kind := ⟨300⟩, distance := ⟨0x7FC00000⟩ }
    let crowd : World :=
      { target := some ⟨9⟩, creatures := [ghost, boss, corpse, add, lost, prey] }
    let few : World := { target := some ⟨9⟩, creatures := [boss, add, prey] }
    let later : Request Unit := .tick .welcoming .obedient { crowd with now := ⟨1⟩ } ()
    let requests : List (Request Unit) := [.tick .welcoming .obedient crowd (), later]
    let requests' : List (Request Unit) := [.tick .welcoming .obedient few (), later]
    let task := fresh (.ok config)
    List.Forall₂ (Request.Varies (.ok config) World.ThinnedFor) requests requests' ∧
      (task.turns requests').map (·.answer.evaluation?) =
        [some (.success, some (.exclude ⟨3⟩)), some (.success, some (.engagePriority ⟨2⟩))] ∧
      task.turns requests' = task.turns requests ∧ task.after requests' = task.after requests := by
  intro config boss prey add ghost corpse lost crowd few later requests requests' task
  have hthinned : Thinned (Creature.Irrelevant config crowd.target) crowd.creatures
      few.creatures :=
    .drop ⟨by decide, by decide, by decide⟩ <| .keep boss <|
      .drop ⟨by decide, by decide, by decide⟩ <| .keep add <|
        .drop ⟨by decide, by decide, by decide⟩ <| .keep prey .nil
  have hrequests : List.Forall₂ (Request.Varies (.ok config) World.ThinnedFor) requests
      requests' := by
    refine .cons (.tick _ _ _ fun config' hconfig => ?_) (.cons (.same later) .nil)
    obtain rfl : config = config' := Except.ok.inj hconfig
    exact ⟨rfl, rfl, hthinned⟩
  exact ⟨hrequests, by decide +kernel, turns_eq_of_thinned hrequests⟩

/-- Where identities are distinct, the boss's kind is there at most once and no two living creatures
of one kind are at one finite distance, the order of the creatures changes nothing in any run. -/
theorem turns_eq_of_reordered
    (h : List.Forall₂ (Request.Varies params World.ReorderedFor) requests requests') :
    (fresh params).turns requests' = (fresh params).turns requests ∧
      (fresh params).after requests' = (fresh params).after requests :=
  turns_of_showsAs (h.imp fun _ _ hvaries => hvaries.mono World.ReorderedFor.showsAs)

/-- Of two living creatures of the kill order the nearer one is engaged, from either end of the
list, while a dead one of their kind is just as near. -/
theorem turns_eq_of_reordered_reversed :
    let config : Config := { boss := ⟨100⟩, killOrder := [⟨200⟩], ignoreBoss := true }
    let world : World :=
      { creatures :=
          [{ guid := ⟨1⟩, kind := ⟨100⟩, distance := ⟨0⟩ },
            { guid := ⟨2⟩, kind := ⟨200⟩, distance := ⟨0x40000000⟩ },
            { guid := ⟨3⟩, kind := ⟨200⟩, distance := ⟨0x3F800000⟩ },
            { guid := ⟨4⟩, kind := ⟨200⟩, distance := ⟨0x3F800000⟩, alive := false }] }
    let world' : World := { world with creatures := world.creatures.reverse }
    let requests : List (Request Unit) := [.tick .welcoming .obedient world ()]
    let requests' : List (Request Unit) := [.tick .welcoming .obedient world' ()]
    let task := fresh (.ok config)
    List.Forall₂ (Request.Varies (.ok config) World.ReorderedFor) requests requests' ∧
      (task.turns requests').map (·.answer.evaluation?) =
        [some (.success, some (.engagePriority ⟨3⟩))] ∧
      task.turns requests' = task.turns requests ∧ task.after requests' = task.after requests := by
  intro config world world' requests requests' task
  have hunambiguous : world.Unambiguous config.boss := ⟨by decide, by decide, by decide⟩
  have hrequests : List.Forall₂ (Request.Varies (.ok config) World.ReorderedFor) requests
      requests' := by
    refine .cons (.tick _ _ _ fun config' hconfig => ?_) .nil
    obtain rfl : config = config' := Except.ok.inj hconfig
    exact ⟨rfl, rfl, hunambiguous, List.reverse_perm _⟩
  exact ⟨hrequests, by decide +kernel, turns_eq_of_reordered hrequests⟩

end Task

end Encounter
