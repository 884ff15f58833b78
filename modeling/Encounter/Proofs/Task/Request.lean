import Encounter.Task
import Encounter.Proofs.Policy.Effect

/-!
# Requests of a task

A request carries the host, the combat routine, the world and the environment that it is served in,
so that nothing at all is assumed of what happens between two requests.  `serve_served` says once
what serving a request can do; every invariant of a task is a case analysis of it.
-/

namespace Encounter

variable {ε : Type}

/-- A request made of a task, with all that it is served in. -/
inductive Request (ε : Type) where
  | start (host : Host ε) (env : ε)
  | tick (host : Host ε) (routine : CombatRoutine ε) (world : World) (env : ε)
  | stop (host : Host ε) (env : ε)

inductive Reply where
  | start (answer : Except TaskError Activation)
  | tick (answer : Except TaskError TickResult)
  | stop

def Reply.evaluation? : Reply → Option (Status × Option Decision)
  | .tick (.ok (.evaluated status decision)) => some (status, decision)
  | .start _ | .tick (.ok .deferred) | .tick (.ok .finished) | .tick (.error _) | .stop => none

def Reply.completes (reply : Reply) : Prop :=
  ∃ status, reply.evaluation? = some (status, some .complete)

namespace Request

def host : Request ε → Host ε
  | .start host _ => host
  | .tick host _ _ _ => host
  | .stop host _ => host

def env : Request ε → ε
  | .start _ env => env
  | .tick _ _ _ env => env
  | .stop _ env => env

def isStop : Request ε → Bool
  | .stop _ _ => true
  | .start _ _ | .tick _ _ _ _ => false

def finished : Request ε → Reply
  | .start _ _ => .start (.ok .finished)
  | .tick _ _ _ _ => .tick (.ok .finished)
  | .stop _ _ => .stop

def serve (task : Task) : Request ε → Turn ε Reply
  | .start host env => (task.start host env).withAnswer (.start (task.start host env).answer)
  | .tick host routine world env =>
      (task.tick host routine world env).withAnswer
        (.tick (task.tick host routine world env).answer)
  | .stop host env => (task.stop host env).withAnswer .stop

end Request

def Call.host? : Call → Option HostCall
  | .host call => some call
  | .combat _ => none

def Call.combat? : Call → Option CombatCall
  | .combat call => some call
  | .host _ => none

namespace Turn

variable {ρ : Type}

def hostCalls (turn : Turn ε ρ) : List HostCall :=
  turn.calls.filterMap Call.host?

def combatCalls (turn : Turn ε ρ) : List CombatCall :=
  turn.calls.filterMap Call.combat?

end Turn

theorem filterMap_host?_map_host (calls : List HostCall) :
    (calls.map Call.host).filterMap Call.host? = calls := by
  rw [List.filterMap_map]
  exact List.filterMap_some

theorem filterMap_host?_map_combat (calls : List CombatCall) :
    (calls.map Call.combat).filterMap Call.host? = [] := by
  simp [List.filterMap_map, Function.comp_def, Call.host?]

theorem filterMap_combat?_map_host (calls : List HostCall) :
    (calls.map Call.host).filterMap Call.combat? = [] := by
  simp [List.filterMap_map, Function.comp_def, Call.combat?]

theorem filterMap_combat?_map_combat (calls : List CombatCall) :
    (calls.map Call.combat).filterMap Call.combat? = calls := by
  rw [List.filterMap_map]
  exact List.filterMap_some

/-! ## One run of the policy -/

namespace Task

/-- The policy either comes to nothing or decides one thing, which then tells all that becomes of
exclusions and completion. -/
theorem runPolicy_effect (task : Task) (config : Config) (routine : CombatRoutine ε)
    (world : World) (env : ε) :
    let answer := task.runPolicy config routine world env
    (answer.1 = .failure ∧ answer.2.decision = none ∧ answer.2.exclusions = task.exclusions ∧
        answer.2.completion = task.completion) ∨
      ∃ d : Decision, answer.1 ≠ .failure ∧ answer.2.decision = some d ∧
        answer.2.exclusions = d.exclusionsAfter world.now task.exclusions ∧
        answer.2.completion = d.completionAfter task.completion := by
  intro answer
  have hpromise := (task.scene config world).tick_promise routine Policy.tree (task.progress env)
  by_cases hstatus : answer.1 = .failure
  · obtain ⟨hexclusions, hcompletion, hrecorded, -⟩ := hpromise.kept hstatus
    refine .inl ⟨hstatus, ?_, hexclusions, hcompletion⟩
    exact congrArg List.head? hrecorded
  · obtain ⟨d, hexclusions, hcompletion, hrecorded, -⟩ := hpromise.ended hstatus
    refine .inr ⟨d, hstatus, ?_, hexclusions, hcompletion⟩
    exact congrArg List.head? hrecorded

def partingCalls (isDone : Bool) : List HostCall :=
  if isDone then [.detach, .clearStatusText] else []

/-- A turn in which `task` runs the policy, `opening` being what the host was told before. -/
structure Evaluated (task : Task) (config : Config) (routine : CombatRoutine ε) (world : World)
    (env : ε) (opening : List HostCall) (turn : Turn ε Reply) : Prop where
  answer : turn.answer = .tick (.ok (.evaluated (task.runPolicy config routine world env).1
    (task.runPolicy config routine world env).2.decision))
  config_eq : turn.task.config = task.config
  exclusions : turn.task.exclusions = (task.runPolicy config routine world env).2.exclusions
  completion : turn.task.completion = (task.runPolicy config routine world env).2.completion
  phase : turn.task.phase = if turn.task.isDone then .done else .running
  calls : turn.calls = opening.map Call.host ++
    (task.runPolicy config routine world env).2.calls.map Call.combat ++
    (partingCalls turn.task.isDone).map Call.host

section Evaluated

variable {task : Task} {config : Config} {routine : CombatRoutine ε} {world : World} {env : ε}
variable {opening : List HostCall} {turn : Turn ε Reply}

theorem evaluate_evaluated (hconfig : task.config = .ok config) (host : Host ε)
    (routine : CombatRoutine ε) (world : World) (env : ε) (opening : List HostCall) :
    let inner := ({ task with phase := .running } : Task).evaluate host routine world env
    task.Evaluated config routine world env opening
      ((inner.withAnswer (.tick inner.answer)).afterCalls (opening.map Call.host)) := by
  intro inner
  obtain ⟨_, exclusions, completion, phase⟩ := task
  obtain rfl := hconfig
  have hrun : (⟨.ok config, exclusions, completion, .running⟩ : Task).runPolicy config routine
      world env = (⟨.ok config, exclusions, completion, phase⟩ : Task).runPolicy config routine
      world env := rfl
  simp only [inner, evaluate, hrun]
  rcases hanswer : (⟨.ok config, exclusions, completion, phase⟩ : Task).runPolicy config routine
    world env with ⟨status, p⟩
  by_cases hdone : p.completion.isDone = true
  · constructor <;>
      simp [hdone, adopt, withdraw, Turn.withAnswer, Turn.afterCalls, isDone, partingCalls,
        hanswer]
  · constructor <;>
      simp [hdone, adopt, Turn.withAnswer, Turn.afterCalls, isDone, partingCalls, hanswer]

theorem Evaluated.evaluation?_eq (h : task.Evaluated config routine world env opening turn) :
    turn.answer.evaluation? = some ((task.runPolicy config routine world env).1,
      (task.runPolicy config routine world env).2.decision) := by
  rw [h.answer]
  rfl

theorem Evaluated.hostCalls_eq (h : task.Evaluated config routine world env opening turn) :
    turn.hostCalls = opening ++ partingCalls turn.task.isDone := by
  rw [Turn.hostCalls, h.calls, List.filterMap_append, List.filterMap_append,
    filterMap_host?_map_host, filterMap_host?_map_combat, filterMap_host?_map_host,
    List.append_nil]

theorem Evaluated.combatCalls_eq (h : task.Evaluated config routine world env opening turn) :
    turn.combatCalls = (task.runPolicy config routine world env).2.calls := by
  rw [Turn.combatCalls, h.calls, List.filterMap_append, List.filterMap_append,
    filterMap_combat?_map_host, filterMap_combat?_map_combat, filterMap_combat?_map_host,
    List.append_nil, List.nil_append]

theorem Evaluated.isDone_iff (h : task.Evaluated config routine world env opening turn)
    (hdone : task.isDone = false) : turn.task.isDone = true ↔ turn.answer.completes := by
  have hflag : task.completion.isDone = false := hdone
  unfold isDone Reply.completes
  rw [h.completion, h.evaluation?_eq]
  rcases task.runPolicy_effect config routine world env with
    ⟨-, hdecision, -, hcompletion⟩ | ⟨d, -, hdecision, -, hcompletion⟩
  · rw [hdecision, hcompletion]
    simp [hflag]
  · rw [hdecision, hcompletion, Decision.isDone_completionAfter]
    simp [hflag]

end Evaluated

end Task

/-! ## What serving a request can do -/

/-- All that serving a request can do to a task. -/
inductive Served (task : Task) (request : Request ε) (turn : Turn ε Reply) : Prop where
  | quiet (hturn : turn.task = task ∧ turn.env = request.env ∧ turn.calls = [])
      (hreply : turn.answer.evaluation? = none)
  | attached (hphase : task.phase = .notStarted) (config : Config)
      (hconfig : task.config = .ok config) (hready : request.host.isReady request.env = true)
      (hturn : turn.task = { task with phase := .running } ∧ turn.calls = [.host .attach])
      (hreply : turn.answer.evaluation? = none)
  | abandoned (hphase : task.phase = .notStarted) (hstop : request.isStop = true)
      (hturn : turn.task = { task with phase := .done } ∧ turn.calls = [])
      (hreply : turn.answer.evaluation? = none)
  | withdrawn (hphase : task.phase = .running)
      (hturn : turn.task = { task with phase := .done } ∧
        turn.calls = [.host .detach, .host .clearStatusText])
      (hreply : turn.answer.evaluation? = none)
  /-- The task runs the policy, in `env` if it is running already, else where attaching itself to
  the host has led. -/
  | evaluated (host : Host ε) (routine : CombatRoutine ε) (world : World) (env env' : ε)
      (hrequest : request = .tick host routine world env) (config : Config)
      (hconfig : task.config = .ok config) (opening : List HostCall)
      (hopening : (task.phase = .running ∧ opening = [] ∧ env' = env) ∨
        (task.phase = .notStarted ∧ host.isReady env = true ∧ opening = [.attach] ∧
          env' = host.tell .attach env))
      (hturn : task.Evaluated config routine world env' opening turn)

section Served

variable (task : Task) (host : Host ε) (env : ε)

theorem serve_start_served :
    Served task (.start host env) ((Request.start host env).serve task) := by
  simp only [Request.serve, Task.start]
  cases hphase : task.phase with
  | running => exact .quiet ⟨rfl, rfl, rfl⟩ rfl
  | done => exact .quiet ⟨rfl, rfl, rfl⟩ rfl
  | notStarted =>
      cases hconfig : task.config with
      | error cause => exact .quiet ⟨rfl, rfl, rfl⟩ rfl
      | ok config =>
          by_cases hready : host.isReady env = true
          · simp only [hready, if_true]
            exact .attached hphase config hconfig hready ⟨by rw [hconfig]; rfl, rfl⟩ rfl
          · simp only [hready]
            exact .quiet ⟨rfl, rfl, rfl⟩ rfl

theorem serve_stop_served :
    Served task (.stop host env) ((Request.stop host env).serve task) := by
  simp only [Request.serve, Task.stop]
  cases hphase : task.phase with
  | notStarted => exact .abandoned hphase rfl ⟨rfl, rfl⟩ rfl
  | running =>
      simp only [Task.withdraw, hphase]
      exact .withdrawn hphase ⟨rfl, rfl⟩ rfl
  | done => exact .quiet ⟨rfl, rfl, rfl⟩ rfl

/-- A tick runs the policy if the task is running, or can attach itself first. -/
theorem serve_tick_evaluated {config : Config} {opening : List HostCall} {env' : ε}
    (routine : CombatRoutine ε) (world : World) (hconfig : task.config = .ok config)
    (hopening : (task.phase = .running ∧ opening = [] ∧ env' = env) ∨
      (task.phase = .notStarted ∧ host.isReady env = true ∧ opening = [.attach] ∧
        env' = host.tell .attach env)) :
    task.Evaluated config routine world env' opening
      ((Request.tick host routine world env).serve task) := by
  simp only [Request.serve, Task.tick]
  rcases hopening with ⟨hphase, rfl, rfl⟩ | ⟨hphase, hready, rfl, rfl⟩
  · have hevaluated := Task.evaluate_evaluated hconfig host routine world env' []
    have hsame : ({ task with phase := .running } : Task) = task := by rw [← hphase]
    rw [hsame] at hevaluated
    simp only [hphase]
    exact hevaluated
  · have hevaluated :=
      Task.evaluate_evaluated hconfig host routine world (host.tell .attach env) [.attach]
    simp only [Task.start, hphase, hconfig, hready, if_true] at hevaluated ⊢
    exact hevaluated

theorem serve_tick_served (routine : CombatRoutine ε) (world : World) :
    Served task (.tick host routine world env)
      ((Request.tick host routine world env).serve task) := by
  cases hphase : task.phase with
  | done =>
      simp only [Request.serve, Task.tick, hphase]
      exact .quiet ⟨rfl, rfl, rfl⟩ rfl
  | running =>
      cases hconfig : task.config with
      | error cause =>
          simp only [Request.serve, Task.tick, hphase, Task.evaluate, hconfig]
          exact .quiet ⟨rfl, rfl, rfl⟩ rfl
      | ok config =>
          exact .evaluated host routine world env env rfl config hconfig []
            (.inl ⟨hphase, rfl, rfl⟩)
            (serve_tick_evaluated task host env routine world hconfig (.inl ⟨hphase, rfl, rfl⟩))
  | notStarted =>
      cases hconfig : task.config with
      | error cause =>
          simp only [Request.serve, Task.tick, hphase, Task.start, hconfig]
          exact .quiet ⟨rfl, rfl, rfl⟩ rfl
      | ok config =>
          by_cases hready : host.isReady env = true
          · exact .evaluated host routine world env (host.tell .attach env) rfl config hconfig
              [.attach] (.inr ⟨hphase, hready, rfl, rfl⟩)
              (serve_tick_evaluated task host env routine world hconfig
                (.inr ⟨hphase, hready, rfl, rfl⟩))
          · simp only [Request.serve, Task.tick, hphase, Task.start, hconfig, hready]
            exact .quiet ⟨rfl, rfl, rfl⟩ rfl

theorem serve_served (request : Request ε) : Served task request (request.serve task) := by
  cases request with
  | start host env => exact serve_start_served task host env
  | tick host routine world env => exact serve_tick_served task host env routine world
  | stop host env => exact serve_stop_served task host env

end Served

end Encounter
