import Encounter.Proofs.Drive.Waiting
import Encounter.Proofs.Task.Lifecycle

/-!
# How a drive ends

A drive ends because it is stopped, because its task is done, or because its first tick is refused
for want of valid parameters.  `Standing` says where a drive can be between two rounds, whatever its
surroundings and however far its task had come before, and `passage_next` what its host has been
told by then.
-/

namespace Encounter

variable {ε : Type}

namespace Task

theorem exists_answer_of_ok {task : Task} {config : Config} (hconfig : task.config = .ok config)
    (host : Host ε) (routine : CombatRoutine ε) (world : World) (env : ε) :
    ∃ report, (task.tick host routine world env).answer = .ok report := by
  have hevaluate : ∀ (task : Task) (env : ε), task.config = .ok config →
      ∃ report, (task.evaluate host routine world env).answer = .ok report := by
    intro task env hconfig
    simp only [evaluate, hconfig]
    split
    · exact ⟨_, rfl⟩
    · exact ⟨_, rfl⟩
  cases hphase : task.phase with
  | done => exact ⟨.finished, by simp [tick, hphase]⟩
  | running =>
      obtain ⟨report, hreport⟩ := hevaluate task env hconfig
      exact ⟨report, by simpa [tick, hphase] using hreport⟩
  | notStarted =>
      by_cases hready : host.isReady env = true
      · obtain ⟨report, hreport⟩ := hevaluate { task with phase := .running }
          (host.tell .attach env) hconfig
        refine ⟨report, ?_⟩
        rw [← hreport]
        simp [tick, start, hphase, hconfig, hready, Turn.afterCalls]
      · exact ⟨.deferred, by simp [tick, start, hphase, hconfig, hready, Turn.withAnswer]⟩

theorem tick_of_done {task : Task} (hphase : task.phase = .done) (host : Host ε)
    (routine : CombatRoutine ε) (world : World) (env : ε) :
    task.tick host routine world env = { answer := .ok .finished, task, env } := by
  simp [tick, hphase]

theorem task_stop (task : Task) (host : Host ε) (env : ε) :
    (task.stop host env).task = { task with phase := .done } := by
  unfold stop
  split
  next => rfl
  next hphase => simp [withdraw, hphase]
  next hphase => rw [← hphase]

end Task

namespace Drive

variable (around : Surroundings ε)

def hostCalls (d : Drive ε) : List HostCall :=
  d.calls.filterMap Call.host?

/-- Where a drive can be, between two rounds, that has begun with `task`. -/
inductive Standing (task : Task) (d : Drive ε) : Prop
  | waiting (htask : d.task = task) (hcalls : d.calls = [])
      (hserved : d.served = 0) (hreports : d.reports = []) (hending : d.ending = none)
  | underway (config : Config) (hconfig : d.task.config = .ok config)
      (hreports : d.reports.length = d.served) (hending : d.ending = none)
  | finished (hphase : d.task.phase = .done) (hreports : d.reports.length = d.served)
      (hending : d.ending = some .finished)
  | refused (cause : ConfigError) (hconfig : task.config = .error cause) (htask : d.task = task)
      (hcalls : d.calls = []) (hserved : d.served = 1) (hreports : d.reports = [])
      (hending : d.ending = some (.refused (.configuration cause)))

section Round

variable {around : Surroundings ε} {d : Drive ε} {task : Task}

/-- A tick that is answered goes into the reports, and ends the drive if it leaves the task done. -/
theorem advance_of_answer (around : Surroundings ε) {report : TickResult}
    (hanswer : (d.task.tick around.host around.routine (around.snapshot d.env).1
      (around.snapshot d.env).2).answer = .ok report) :
    let turn := d.task.tick around.host around.routine (around.snapshot d.env).1
      (around.snapshot d.env).2
    d.advance around =
      { task := turn.task
        env := turn.env
        calls := d.calls ++ turn.calls
        reports := d.reports ++ [((around.snapshot d.env).1.now, report)]
        served := d.served + 1
        ending := if turn.task.phase = .done then some .finished else none } := by
  simp only [advance, hanswer]

theorem advance_of_error {cause : ConfigError} (hphase : d.task.phase ≠ .done)
    (hconfig : d.task.config = .error cause) :
    d.advance around =
      { d with
        env := (around.snapshot d.env).2
        served := d.served + 1
        ending := some (.refused (.configuration cause)) } := by
  simp [advance, Task.tick_refused hphase hconfig]

theorem config_tick (task : Task) (host : Host ε) (routine : CombatRoutine ε) (world : World)
    (env : ε) : (task.tick host routine world env).task.config = task.config :=
  task.config_serve (.tick host routine world env)

/-- The first round that is ticked, or any later one, unless it is refused. -/
theorem standing_advance (hreports : d.reports.length = d.served) {report : TickResult}
    (hanswer : (d.task.tick around.host around.routine (around.snapshot d.env).1
      (around.snapshot d.env).2).answer = .ok report)
    (hconfig : d.task.phase = .done ∨ ∃ config, d.task.config = .ok config) :
    Standing task (d.advance around) := by
  rw [advance_of_answer around hanswer]
  have hlength : (d.reports ++ [((around.snapshot d.env).1.now, report)]).length =
      d.served + 1 := by
    rw [List.length_append, hreports, List.length_singleton]
  by_cases hdone : (d.task.tick around.host around.routine (around.snapshot d.env).1
      (around.snapshot d.env).2).task.phase = .done
  · exact .finished hdone hlength (if_pos hdone)
  · rcases hconfig with hphase | ⟨config, hconfig⟩
    · rw [Task.tick_of_done hphase] at hdone
      exact absurd hphase hdone
    · exact .underway config ((config_tick _ _ _ _ _).trans hconfig) hlength (if_neg hdone)

theorem standing_halt (hreports : d.reports.length = d.served) :
    Standing task (d.halt around) := by
  apply Standing.finished
  · simp [halt, Task.task_stop]
  · exact hreports
  · rfl

theorem Standing.advance (h : d.Standing task) (hending : d.ending = none)
    (around : Surroundings ε) : (d.advance around).Standing task := by
  cases h with
  | waiting htask hcalls hserved hreports _ =>
      have hlength : d.reports.length = d.served := by simp [hreports, hserved]
      by_cases hphase : d.task.phase = .done
      · exact standing_advance hlength
          (congrArg Turn.answer (Task.tick_of_done hphase _ _ _ _)) (.inl hphase)
      · cases hconfig : d.task.config with
        | ok config =>
            obtain ⟨report, hanswer⟩ := Task.exists_answer_of_ok hconfig around.host
              around.routine (around.snapshot d.env).1 (around.snapshot d.env).2
            exact standing_advance hlength hanswer (.inr ⟨config, hconfig⟩)
        | error cause =>
            rw [advance_of_error hphase hconfig]
            exact .refused cause (htask ▸ hconfig) htask hcalls (by simp [hserved]) hreports rfl
  | underway config hconfig hreports _ =>
      obtain ⟨report, hanswer⟩ := Task.exists_answer_of_ok hconfig around.host
        around.routine (around.snapshot d.env).1 (around.snapshot d.env).2
      exact standing_advance hreports hanswer (.inr ⟨config, hconfig⟩)
  | finished _ _ hended => simp [hending] at hended
  | refused _ _ _ _ _ _ hended => simp [hending] at hended

theorem Standing.halt (h : d.Standing task) (hending : d.ending = none)
    (around : Surroundings ε) : (d.halt around).Standing task := by
  cases h with
  | waiting _ _ hserved hreports _ => exact standing_halt (by simp [hreports, hserved])
  | underway _ _ hreports _ => exact standing_halt hreports
  | finished _ _ hended => simp [hending] at hended
  | refused _ _ _ _ _ _ hended => simp [hending] at hended

theorem Standing.next (h : d.Standing task) (around : Surroundings ε) :
    (d.next around).Standing task := by
  rcases next_cases around d with ⟨-, hnext⟩ | ⟨hending, -, hnext⟩ | ⟨hending, -, hnext⟩
  · rw [hnext]
    exact h
  · rw [hnext]
    exact h.halt hending around
  · rw [hnext]
    exact h.advance hending around

theorem advance_calls (around : Surroundings ε) (d : Drive ε) :
    (d.advance around).calls = d.calls ++ (d.task.tick around.host around.routine
      (around.snapshot d.env).1 (around.snapshot d.env).2).calls := by
  unfold advance
  simp only
  split <;> rfl

theorem advance_task (around : Surroundings ε) (d : Drive ε) :
    (d.advance around).task = (d.task.tick around.host around.routine
      (around.snapshot d.env).1 (around.snapshot d.env).2).task := by
  unfold advance
  simp only
  split <;> rfl

theorem advance_env (around : Surroundings ε) (d : Drive ε) :
    (d.advance around).env = (d.task.tick around.host around.routine
      (around.snapshot d.env).1 (around.snapshot d.env).2).env := by
  unfold advance
  simp only
  split <;> rfl

theorem advance_served (around : Surroundings ε) (d : Drive ε) :
    (d.advance around).served = d.served + 1 := by
  unfold advance
  simp only
  split <;> rfl

theorem passage_next {phase : Phase} (h : Task.Passage phase d.hostCalls d.task.phase)
    (around : Surroundings ε) :
    Task.Passage phase (d.next around).hostCalls (d.next around).task.phase := by
  have hserve : ∀ request : Request ε, Task.Passage phase
      (d.hostCalls ++ (request.serve d.task).hostCalls) (request.serve d.task).task.phase :=
    fun request => h.trans (Task.passage_serve d.task request)
  rcases next_cases around d with ⟨-, hnext⟩ | ⟨-, -, hnext⟩ | ⟨-, -, hnext⟩
  · rw [hnext]
    exact h
  · have hhalt := hserve (.stop around.host d.env)
    have hcalls : (d.halt around).hostCalls = d.hostCalls ++
        ((Request.stop around.host d.env).serve d.task).hostCalls :=
      List.filterMap_append
    rw [hnext, hcalls]
    exact hhalt
  · have hadvance := hserve (.tick around.host around.routine (around.snapshot d.env).1
      (around.snapshot d.env).2)
    have hcalls : (d.advance around).hostCalls = d.hostCalls ++
        ((Request.tick around.host around.routine (around.snapshot d.env).1
          (around.snapshot d.env).2).serve d.task).hostCalls := by
      rw [hostCalls, advance_calls, List.filterMap_append]
      rfl
    rw [hnext, hcalls, advance_task]
    exact hadvance

/-- What every round of a drive keeps, the drive keeps. -/
theorem run_induction {P : Drive ε → Prop} (hnext : ∀ d, P d → P (d.next around)) (hd : P d)
    (rounds : ℕ) : P (d.run around rounds) := by
  induction rounds with
  | zero => exact hd
  | succ rounds ih =>
      rw [run_succ]
      exact hnext _ ih

end Round

end Drive

end Encounter
