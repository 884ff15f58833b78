import Encounter.Proofs.Policy.Translation
import Encounter.Proofs.Task.Completion
import Encounter.Proofs.Task.Refinement

/-!
# Runs on a clock that runs ahead

Two tasks that agree but for exclusions `d` later are served corresponding requests alike: the same
answer and the same calls, with every expiry in them `d` later, and two tasks that again agree but
for exclusions `d` later.  Host and routine may keep whatever they like in their environments, as
long as that does not make them answer otherwise.  From a fresh task on, this carries through every
run in which the clock has room for the exclusions of each tick.
-/

namespace Encounter

variable {ε δ : Type}

def Call.later (d : ℕ) : Call → Call
  | .host call => .host call
  | .combat call => .combat (call.later d)

/-- In environments that `R` relates the two hosts answer alike, and they leave them related. -/
structure Host.Echoes (R : ε → δ → Prop) (host : Host ε) (host' : Host δ) : Prop where
  isIdle_eq : ∀ {env env'}, R env env' → host'.isIdle env' = host.isIdle env
  isComposable_eq : ∀ {env env'}, R env env' → host'.isComposable env' = host.isComposable env
  tell : ∀ call {env env'}, R env env' → R (host.tell call env) (host'.tell call env')

/-- The second request is the first on a clock that runs `d` ahead, with five minutes left on it
after a tick. -/
inductive Request.Later (d : ℕ) (R : ε → δ → Prop) : Request ε → Request δ → Prop
  | start {host : Host ε} {host' : Host δ} {env : ε} {env' : δ} (hhost : host.Echoes R host')
      (henv : R env env') : Later d R (.start host env) (.start host' env')
  | tick {host : Host ε} {host' : Host δ} {routine : CombatRoutine ε} {routine' : CombatRoutine δ}
      {world : World} {env : ε} {env' : δ} (hhost : host.Echoes R host')
      (hroutine : routine.Echoes d R routine')
      (hroom : world.now.millis.toNat + d + 300000 ≤ 2 ^ 64 - 1) (henv : R env env') :
      Later d R (.tick host routine world env) (.tick host' routine' (world.later d) env')
  | stop {host : Host ε} {host' : Host δ} {env : ε} {env' : δ} (hhost : host.Echoes R host')
      (henv : R env env') : Later d R (.stop host env) (.stop host' env')

structure Task.Later (d : ℕ) (task task' : Task) : Prop where
  config_eq : task'.config = task.config
  exclusions : task.exclusions.Later d task'.exclusions
  completion_eq : task'.completion = task.completion
  phase_eq : task'.phase = task.phase

/-- What shows of two turns, the second on a clock that is `d` ahead: the same answer, the same
calls with every expiry `d` later, and the same exclusions at corresponding readings. -/
structure Turn.Translated {ρ : Type} (d : ℕ) (R : ε → δ → Prop) (turn : Turn ε ρ)
    (turn' : Turn δ ρ) : Prop where
  answer_eq : turn'.answer = turn.answer
  calls_eq : turn'.calls = turn.calls.map (Call.later d)
  contains_eq : ∀ guid (now : Timestamp), now.millis.toNat + d ≤ 2 ^ 64 - 1 →
    turn'.task.exclusions.contains guid (now.later d) = turn.task.exclusions.contains guid now
  phase_eq : turn'.task.phase = turn.task.phase
  isDone_eq : turn'.task.isDone = turn.task.isDone
  env : R turn.env turn'.env

structure Turn.Later {ρ : Type} (d : ℕ) (R : ε → δ → Prop) (turn : Turn ε ρ) (turn' : Turn δ ρ) :
    Prop where
  answer_eq : turn'.answer = turn.answer
  task : turn.task.Later d turn'.task
  env : R turn.env turn'.env
  calls_eq : turn'.calls = turn.calls.map (Call.later d)

variable {d : ℕ} {R : ε → δ → Prop} {host : Host ε} {host' : Host δ} {routine : CombatRoutine ε}
variable {routine' : CombatRoutine δ} {env : ε} {env' : δ} {task task' : Task}

theorem Host.Echoes.isReady_eq (h : host.Echoes R host') (henv : R env env') :
    host'.isReady env' = host.isReady env := by
  rw [isReady, isReady, h.isIdle_eq henv, h.isComposable_eq henv]

theorem Call.map_later_combat (calls : List CombatCall) :
    (calls.map (CombatCall.later d)).map Call.combat =
      (calls.map Call.combat).map (Call.later d) := by
  rw [List.map_map, List.map_map]
  rfl

namespace Turn

variable {ρ σ : Type} {turn : Turn ε ρ} {turn' : Turn δ ρ}

theorem Later.withAnswer (h : turn.Later d R turn') (answer : σ) :
    (turn.withAnswer answer).Later d R (turn'.withAnswer answer) where
  answer_eq := rfl
  task := h.task
  env := h.env
  calls_eq := h.calls_eq

theorem Later.afterCalls (h : turn.Later d R turn') {calls calls' : List Call}
    (hcalls : calls' = calls.map (Call.later d)) :
    (turn.afterCalls calls).Later d R (turn'.afterCalls calls') where
  answer_eq := h.answer_eq
  task := h.task
  env := h.env
  calls_eq := by rw [Turn.afterCalls, Turn.afterCalls, hcalls, h.calls_eq, List.map_append]

theorem Later.translated (h : turn.Later d R turn') : turn.Translated d R turn' where
  answer_eq := h.answer_eq
  calls_eq := h.calls_eq
  contains_eq guid _ hnow := h.task.exclusions.contains_eq guid (by omega)
  phase_eq := h.task.phase_eq
  isDone_eq := congrArg Completion.isDone h.task.completion_eq
  env := h.env

end Turn

namespace Task

theorem later_fresh (d : ℕ) (params : Except ConfigError Config) :
    (fresh params).Later d (fresh params) where
  config_eq := rfl
  exclusions := Exclusions.later_empty d
  completion_eq := rfl
  phase_eq := rfl

theorem Later.withPhase (h : task.Later d task') (phase : Phase) :
    ({ task with phase } : Task).Later d { task' with phase } where
  config_eq := h.config_eq
  exclusions := h.exclusions
  completion_eq := h.completion_eq
  phase_eq := rfl

/-! ## One request -/

section Serve

variable (h : task.Later d task') (hhost : host.Echoes R host') (henv : R env env')
include h hhost henv

theorem Later.start : (task.start host env).Later d R (task'.start host' env') := by
  unfold Task.start
  rw [h.phase_eq, h.config_eq, hhost.isReady_eq henv]
  cases task.phase with
  | running => exact ⟨rfl, h, henv, rfl⟩
  | done => exact ⟨rfl, h, henv, rfl⟩
  | notStarted =>
      cases hconfig : task.config with
      | error cause => exact ⟨rfl, h, henv, rfl⟩
      | ok config =>
          simp only
          split
          next =>
            have hrunning := h.withPhase .running
            exact ⟨rfl, by rwa [h.config_eq, hconfig] at hrunning, hhost.tell _ henv, rfl⟩
          next => exact ⟨rfl, h, henv, rfl⟩

theorem Later.withdraw : (task.withdraw host env).Later d R (task'.withdraw host' env') := by
  unfold Task.withdraw
  rw [h.phase_eq]
  cases task.phase with
  | running => exact ⟨rfl, h.withPhase .done, hhost.tell _ (hhost.tell _ henv), rfl⟩
  | notStarted => exact ⟨rfl, h, henv, rfl⟩
  | done => exact ⟨rfl, h, henv, rfl⟩

theorem Later.stop : (task.stop host env).Later d R (task'.stop host' env') := by
  unfold Task.stop
  rw [h.phase_eq]
  cases task.phase with
  | running => exact h.withdraw hhost henv
  | notStarted => exact ⟨rfl, h.withPhase .done, henv, rfl⟩
  | done => exact ⟨rfl, h, henv, rfl⟩

variable (hroutine : routine.Echoes d R routine') {world : World}
variable (hroom : world.now.millis.toNat + d + 300000 < 2 ^ 64)
include hroutine hroom

omit hhost in
theorem Later.runPolicy (hdone : task.isDone = false) (config : Config) :
    (Progress.verdict (task.runPolicy config routine world env)).Later d R
      (Progress.verdict (task'.runPolicy config routine' (world.later d) env')) := by
  have hdone' : task'.isDone = false := by
    rw [isDone, h.completion_eq]
    exact hdone
  rw [runPolicy_verdict _ _ _ _ _ hdone, runPolicy_verdict _ _ _ _ _ hdone']
  exact FlatPolicy.verdict_later hroutine h.exclusions hroom henv

theorem Later.evaluate (hdone : task.isDone = false) :
    (task.evaluate host routine world env).Later d R
      (task'.evaluate host' routine' (world.later d) env') := by
  unfold Task.evaluate
  rw [h.config_eq]
  cases hconfig : task.config with
  | error cause => exact ⟨rfl, h, henv, rfl⟩
  | ok config =>
      have hverdict := h.runPolicy henv hroutine hroom hdone config
      rcases hanswer : task.runPolicy config routine world env with ⟨status, p⟩
      rcases hanswer' : task'.runPolicy config routine' (world.later d) env' with ⟨status', p'⟩
      rw [hanswer, hanswer'] at hverdict
      obtain rfl : status' = status := hverdict.status_eq
      have hdecision : p'.decision = p.decision := hverdict.decision_eq
      have hdone' : p'.completion.isDone = p.completion.isDone := hverdict.isDone_eq
      have hcalls : p'.calls.map Call.combat = (p.calls.map Call.combat).map (Call.later d) := by
        have hcalls : p'.calls = p.calls.map (CombatCall.later d) := hverdict.calls_eq
        rw [hcalls, Call.map_later_combat]
      have hadopt : (task.adopt p).Later d (task'.adopt p') :=
        ⟨h.config_eq, hverdict.exclusions, congrArg Completion.mk hdone', h.phase_eq⟩
      simp only [hanswer, hanswer', hdecision, hdone']
      split
      next =>
        exact ((hadopt.withdraw hhost hverdict.env).withAnswer _).afterCalls hcalls
      next => exact ⟨rfl, hadopt, hverdict.env, hcalls⟩

theorem Later.tick (hcoherent : task.Coherent) :
    (task.tick host routine world env).Later d R
      (task'.tick host' routine' (world.later d) env') := by
  unfold Task.tick
  rw [h.phase_eq]
  cases hphase : task.phase with
  | done => exact ⟨rfl, h, henv, rfl⟩
  | running =>
      exact h.evaluate hhost henv hroutine hroom (hcoherent.isDone_eq_false (by simp [hphase]))
  | notStarted =>
      have hbegun := h.start hhost henv
      have hquiet : ((Request.start host env).serve task).answer.evaluation? = none := rfl
      obtain ⟨-, -, hcompletion⟩ := quiet_of_no_evaluation hquiet
      have hdone : (task.start host env).task.isDone = false :=
        (congrArg Completion.isDone hcompletion).trans
          (hcoherent.isDone_eq_false (by simp [hphase]))
      have hevaluate := hbegun.task.evaluate hhost hbegun.env hroutine hroom hdone
      simp only [hbegun.answer_eq]
      rcases (task.start host env).answer with cause | activation
      · exact hbegun.withAnswer _
      · cases activation with
        | deferred => exact hbegun.withAnswer _
        | started | alreadyRunning | finished => exact hevaluate.afterCalls hbegun.calls_eq

end Serve

variable {request : Request ε} {request' : Request δ}

theorem Later.serve (h : task.Later d task') (hcoherent : task.Coherent)
    (hrequest : request.Later d R request') :
    (request.serve task).Later d R (request'.serve task') := by
  cases hrequest with
  | @start host host' env env' hhost henv =>
      have hturn := h.start hhost henv
      simp only [Request.serve, hturn.answer_eq]
      exact hturn.withAnswer _
  | @tick host host' routine routine' world env env' hhost hroutine hroom henv =>
      have hroom' : world.now.millis.toNat + d + 300000 < 2 ^ 64 := by omega
      have hturn := h.tick hhost henv hroutine hroom' hcoherent
      simp only [Request.serve, hturn.answer_eq]
      exact hturn.withAnswer _
  | stop hhost henv => exact (h.stop hhost henv).withAnswer _

/-! ## Whole runs -/

variable {requests : List (Request ε)} {requests' : List (Request δ)}

theorem Later.turns (h : task.Later d task') (hcoherent : task.Coherent)
    (hrequests : List.Forall₂ (Request.Later d R) requests requests') :
    List.Forall₂ (Turn.Later d R) (task.turns requests) (task'.turns requests') := by
  induction hrequests generalizing task task' with
  | nil => exact .nil
  | cons hrequest _ ih =>
      have hturn := h.serve hcoherent hrequest
      exact .cons hturn (ih hturn.task (hcoherent.serve _))

/-- A run on a clock that is ahead by `d`, and never so far that an exclusion reaches its end, gets
the same answers and makes the same calls, with expiries later by `d`, and after each request
excludes at each reading what was excluded `d` before. -/
theorem turns_translated (params : Except ConfigError Config)
    (hrequests : List.Forall₂ (Request.Later d R) requests requests') :
    List.Forall₂ (Turn.Translated d R) ((fresh params).turns requests)
      ((fresh params).turns requests') :=
  ((later_fresh d params).turns (coherent_fresh params) hrequests).imp fun _ _ h => h.translated

/-- Ahead by five seconds or not, while the boss is shielded the exclusion made first is made again
by the third tick, by a routine that keeps the expiries it is told of. -/
theorem turns_translated_five_seconds :
    let config : Config :=
      { boss := ⟨100⟩, aura := ⟨7⟩, blacklist := [⟨300⟩], killOrder := [⟨200⟩] }
    let creatures : List Creature :=
      [{ guid := ⟨1⟩, kind := ⟨100⟩, distance := ⟨0⟩, auras := [⟨7⟩] },
        { guid := ⟨2⟩, kind := ⟨200⟩, distance := ⟨0⟩ },
        { guid := ⟨3⟩, kind := ⟨300⟩, distance := ⟨0⟩ }]
    let host : Host (List Timestamp) :=
      { isIdle := fun _ => true, isComposable := fun _ => true, tell := fun _ env => env }
    let routine : CombatRoutine (List Timestamp) :=
      { target := fun _ env => (!env.isEmpty, env)
        exclude := fun _ expiry env => env ++ [expiry]
        flush := fun _ => []
        perform := fun _ env => (.success, env) }
    let requests : List (Request (List Timestamp)) :=
      [.tick host routine { now := ⟨0⟩, creatures } [],
        .tick host routine { now := ⟨1000⟩, creatures } [⟨300000⟩],
        .tick host routine { now := ⟨300000⟩, creatures } [⟨300000⟩]]
    let requests' : List (Request (List Timestamp)) :=
      [.tick host routine { now := ⟨5000⟩, creatures } [],
        .tick host routine { now := ⟨6000⟩, creatures } [⟨305000⟩],
        .tick host routine { now := ⟨305000⟩, creatures } [⟨305000⟩]]
    let ahead : List Timestamp → List Timestamp → Prop :=
      fun env env' => env' = env.map (Timestamp.later 5000)
    List.Forall₂ (Request.Later 5000 ahead) requests requests' ∧
      ((fresh (.ok config)).turns requests').map (·.answer.evaluation?) =
        [some (.success, some (.exclude ⟨3⟩)), some (.success, some (.engagePriority ⟨2⟩)),
          some (.success, some (.exclude ⟨3⟩))] ∧
      List.Forall₂ (Turn.Translated 5000 ahead) ((fresh (.ok config)).turns requests)
        ((fresh (.ok config)).turns requests') := by
  intro config creatures host routine requests requests' ahead
  have hhost : host.Echoes ahead host := ⟨fun _ => rfl, fun _ => rfl, fun _ _ _ h => h⟩
  have hroutine : routine.Echoes 5000 ahead routine := by
    refine ⟨fun guid env env' h => ?_, fun guid expiry env env' h => ?_, fun _ => rfl,
      fun _ _ _ h => ⟨rfl, h⟩⟩
    · obtain rfl : env' = env.map (Timestamp.later 5000) := h
      exact ⟨congrArg not List.isEmpty_map, rfl⟩
    · obtain rfl : env' = env.map (Timestamp.later 5000) := h
      have hkept : (env ++ [expiry]).map (Timestamp.later 5000) =
          env.map (Timestamp.later 5000) ++ [expiry.later 5000] := List.map_append
      exact hkept.symm
  have hrequests : List.Forall₂ (Request.Later 5000 ahead) requests requests' :=
    .cons (.tick hhost hroutine (by decide) rfl) <|
      .cons (.tick hhost hroutine (by decide) rfl) <|
        .cons (.tick hhost hroutine (by decide) rfl) .nil
  exact ⟨hrequests, by decide +kernel, turns_translated (.ok config) hrequests⟩

end Task

end Encounter
