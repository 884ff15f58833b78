import Encounter.Config.Attributes
import Encounter.Host
import Encounter.Policy.Tree

/-!
# The task

The task goes from not started through running to done and never back.  It attaches itself to the
host on the first start or tick at which the host is ready, runs the policy once on every tick from
then on, and takes itself away when the policy completes it or when it is stopped.  A task without
a valid configuration refuses every start and every tick until it is stopped.

Each request answers with a `Turn`: the answer, what became of the task and of the environment, and
the calls made on the way.
-/

namespace Encounter

/-- How far a task has come. -/
inductive Phase where
  | notStarted
  | running
  | done
  deriving DecidableEq, Repr, Inhabited

inductive Activation where
  | started
  | deferred
  | alreadyRunning
  | finished
  deriving DecidableEq, Repr

inductive TickResult where
  | deferred
  | evaluated (status : Status) (decision : Option Decision)
  | finished
  deriving DecidableEq, Repr

inductive TaskError where
  | configuration (cause : ConfigError)
  deriving DecidableEq, Repr

def TaskError.message : TaskError → String
  | .configuration cause => "task cannot start: " ++ cause.message

structure Task where
  config : Except ConfigError Config
  exclusions : Exclusions := Exclusions.empty
  completion : Completion := {}
  phase : Phase := .notStarted

/-- An answer of type `ρ` to one request, and what the request did. -/
structure Turn (ε ρ : Type) where
  answer : ρ
  task : Task
  env : ε
  calls : List Call := []

def Turn.withAnswer {ε ρ σ : Type} (turn : Turn ε ρ) (answer : σ) : Turn ε σ :=
  { turn with answer }

def Turn.afterCalls {ε ρ : Type} (turn : Turn ε ρ) (calls : List Call) : Turn ε ρ :=
  { turn with calls := calls ++ turn.calls }

namespace Task

def name : String := "TargetOfInterest"

def ofConfig (config : Config) : Task where
  config := config.validate

def ofAttributes (m : Attributes) : Task where
  config := Config.ofAttributes m

def isDone (task : Task) : Bool :=
  task.completion.isDone

variable {ε : Type}

def start (task : Task) (host : Host ε) (env : ε) : Turn ε (Except TaskError Activation) :=
  match task.phase, task.config with
  | .running, _ => { answer := .ok .alreadyRunning, task, env }
  | .done, _ => { answer := .ok .finished, task, env }
  | .notStarted, .error cause => { answer := .error (.configuration cause), task, env }
  | .notStarted, .ok _ =>
      if host.isReady env then
        { answer := .ok .started
          task := { task with phase := .running }
          env := host.tell .attach env
          calls := [.host .attach] }
      else
        { answer := .ok .deferred, task, env }

/-- Takes a running task away from the host; does nothing to another. -/
def withdraw (task : Task) (host : Host ε) (env : ε) : Turn ε PUnit :=
  match task.phase with
  | .running =>
      { answer := ⟨⟩
        task := { task with phase := .done }
        env := host.tell .clearStatusText (host.tell .detach env)
        calls := [.host .detach, .host .clearStatusText] }
  | .notStarted | .done => { answer := ⟨⟩, task, env }

def scene (task : Task) (config : Config) (world : World) : Scene where
  config := config
  now := world.now
  seen := Sightings.observe config world task.exclusions world.now

def progress (task : Task) (env : ε) : Progress ε where
  exclusions := task.exclusions
  completion := task.completion
  env := env

def adopt (task : Task) (p : Progress ε) : Task :=
  { task with exclusions := p.exclusions, completion := p.completion }

def runPolicy (task : Task) (config : Config) (routine : CombatRoutine ε) (world : World)
    (env : ε) : Status × Progress ε :=
  Policy.tree.tick ((task.scene config world).behaviour routine) (task.progress env)

def evaluate (task : Task) (host : Host ε) (routine : CombatRoutine ε) (world : World) (env : ε) :
    Turn ε (Except TaskError TickResult) :=
  match task.config with
  | .error cause => { answer := .error (.configuration cause), task, env }
  | .ok config =>
      let (status, p) := task.runPolicy config routine world env
      let report := .ok (.evaluated status p.decision)
      let calls := p.calls.map Call.combat
      if p.completion.isDone then
        (((task.adopt p).withdraw host p.env).withAnswer report).afterCalls calls
      else
        { answer := report, task := task.adopt p, env := p.env, calls }

/-- Runs one tick.  A task that has not started tries to, and runs the policy at once if it can. -/
def tick (task : Task) (host : Host ε) (routine : CombatRoutine ε) (world : World) (env : ε) :
    Turn ε (Except TaskError TickResult) :=
  match task.phase with
  | .done => { answer := .ok .finished, task, env }
  | .running => task.evaluate host routine world env
  | .notStarted =>
      let begun := task.start host env
      match begun.answer with
      | .error e => begun.withAnswer (.error e)
      | .ok .deferred => begun.withAnswer (.ok .deferred)
      | .ok _ => (begun.task.evaluate host routine world begun.env).afterCalls begun.calls

def stop (task : Task) (host : Host ε) (env : ε) : Turn ε PUnit :=
  match task.phase with
  | .notStarted => { answer := ⟨⟩, task := { task with phase := .done }, env }
  | .running => task.withdraw host env
  | .done => { answer := ⟨⟩, task, env }

end Task

end Encounter
