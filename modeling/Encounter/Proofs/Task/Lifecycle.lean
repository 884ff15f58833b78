import Encounter.Proofs.Task.Run

/-!
# The life of a task as its host sees it

However requests follow one another, the host is told nothing, or that the task has come, or that
it has come and gone again.  `Attendance` ties these three logs to the phases; the fourth case, a
task that is done without ever having come, has a stop to show for it.
-/

namespace Encounter

variable {ε : Type}

def Phase.rank : Phase → ℕ
  | .notStarted => 0
  | .running => 1
  | .done => 2

namespace Task

/-- One of the requests was to stop, and the task had not attached itself when it was served. -/
def StoppedBeforeStart (task : Task) (requests : List (Request ε)) : Prop :=
  ∃ before host env after, requests = before ++ .stop host env :: after ∧
    (task.after before).phase = .notStarted

theorem StoppedBeforeStart.concat {task : Task} {requests : List (Request ε)}
    (h : task.StoppedBeforeStart requests) (request : Request ε) :
    task.StoppedBeforeStart (requests ++ [request]) := by
  obtain ⟨before, host, env, after, rfl, hphase⟩ := h
  exact ⟨before, host, env, after ++ [request], by simp, hphase⟩

/-- What the host has been told, by the phase of the task. -/
inductive Attendance (task : Task) (requests : List (Request ε)) : Prop where
  | waiting (hphase : (task.after requests).phase = .notStarted)
      (hlog : task.hostLog requests = [])
  | present (hphase : (task.after requests).phase = .running)
      (hlog : task.hostLog requests = [.attach])
  | gone (hphase : (task.after requests).phase = .done)
      (hlog : task.hostLog requests = [.attach, .detach, .clearStatusText])
  | absent (hphase : (task.after requests).phase = .done) (hlog : task.hostLog requests = [])
      (hstopped : task.StoppedBeforeStart requests)

section Concat

variable {task : Task} {requests : List (Request ε)} {request : Request ε}

theorem Attendance.concat_of_same (h : task.Attendance requests)
    (hphase : (request.serve (task.after requests)).task.phase = (task.after requests).phase)
    (hcalls : (request.serve (task.after requests)).hostCalls = []) :
    task.Attendance (requests ++ [request]) := by
  have hafter : (task.after (requests ++ [request])).phase = (task.after requests).phase := by
    rw [after_concat, hphase]
  have hsame : task.hostLog (requests ++ [request]) = task.hostLog requests := by
    rw [hostLog_concat, hcalls, List.append_nil]
  cases h with
  | waiting hphase hlog => exact .waiting (hafter.trans hphase) (hsame.trans hlog)
  | present hphase hlog => exact .present (hafter.trans hphase) (hsame.trans hlog)
  | gone hphase hlog => exact .gone (hafter.trans hphase) (hsame.trans hlog)
  | absent hphase hlog hstopped =>
      exact .absent (hafter.trans hphase) (hsame.trans hlog) (hstopped.concat request)

theorem Attendance.hostLog_of_notStarted (h : task.Attendance requests)
    (hphase : (task.after requests).phase = .notStarted) : task.hostLog requests = [] := by
  cases h with
  | waiting _ hlog => exact hlog
  | present hphase' => simp [hphase] at hphase'
  | gone hphase' => simp [hphase] at hphase'
  | absent hphase' => simp [hphase] at hphase'

theorem Attendance.hostLog_of_running (h : task.Attendance requests)
    (hphase : (task.after requests).phase = .running) : task.hostLog requests = [.attach] := by
  cases h with
  | waiting hphase' => simp [hphase] at hphase'
  | present _ hlog => exact hlog
  | gone hphase' => simp [hphase] at hphase'
  | absent hphase' => simp [hphase] at hphase'

theorem Attendance.concat_evaluated {config : Config} {routine : CombatRoutine ε} {world : World}
    {env : ε} {opening : List HostCall}
    (hlog : task.hostLog requests ++ opening = [.attach])
    (hturn : (task.after requests).Evaluated config routine world env opening
      (request.serve (task.after requests))) :
    task.Attendance (requests ++ [request]) := by
  have hphase := hturn.phase
  have hlog' : task.hostLog (requests ++ [request]) =
      [.attach] ++ partingCalls (request.serve (task.after requests)).task.isDone := by
    rw [hostLog_concat, hturn.hostCalls_eq, ← List.append_assoc, hlog]
  by_cases hdone : (request.serve (task.after requests)).task.isDone = true
  · rw [if_pos hdone] at hphase
    rw [partingCalls, if_pos hdone] at hlog'
    exact .gone (by rw [after_concat, hphase]) hlog'
  · rw [if_neg hdone] at hphase
    rw [partingCalls, if_neg hdone] at hlog'
    exact .present (by rw [after_concat, hphase]) hlog'

theorem Attendance.concat (h : task.Attendance requests) (request : Request ε) :
    task.Attendance (requests ++ [request]) := by
  cases serve_served (task.after requests) request with
  | quiet hturn =>
      apply h.concat_of_same
      · rw [hturn.1]
      · rw [Turn.hostCalls, hturn.2.2]
        rfl
  | attached hphase _ _ _ hturn =>
      apply Attendance.present
      · rw [after_concat, hturn.1]
      · rw [hostLog_concat, h.hostLog_of_notStarted hphase, Turn.hostCalls, hturn.2]
        rfl
  | abandoned hphase hstop hturn =>
      have hnil := h.hostLog_of_notStarted hphase
      cases request with
      | start => simp [Request.isStop] at hstop
      | tick => simp [Request.isStop] at hstop
      | stop host env =>
          apply Attendance.absent
          · rw [after_concat, hturn.1]
          · rw [hostLog_concat, hnil, Turn.hostCalls, hturn.2]
            rfl
          · exact ⟨requests, host, env, [], rfl, hphase⟩
  | withdrawn hphase hturn =>
      apply Attendance.gone
      · rw [after_concat, hturn.1]
      · rw [hostLog_concat, h.hostLog_of_running hphase, Turn.hostCalls, hturn.2]
        rfl
  | evaluated host routine world env env' hrequest config hconfig opening hopening hturn =>
      apply Attendance.concat_evaluated _ hturn
      rcases hopening with ⟨hphase, rfl, -⟩ | ⟨hphase, -, rfl, -⟩
      · rw [h.hostLog_of_running hphase]
        rfl
      · rw [h.hostLog_of_notStarted hphase]
        rfl

end Concat

theorem attendance_fresh (config : Except ConfigError Config) (requests : List (Request ε)) :
    (fresh config).Attendance requests := by
  induction requests using List.reverseRecOn with
  | nil => exact .waiting rfl rfl
  | append_singleton requests request ih => exact ih.concat request

/-! ## Phases only move forward -/

/-- What the host is told while a task of any kind goes from one phase to another. -/
inductive Passage : Phase → List HostCall → Phase → Prop
  | stay (phase : Phase) : Passage phase [] phase
  | come : Passage .notStarted [.attach] .running
  | leave : Passage .running [.detach, .clearStatusText] .done
  | visit : Passage .notStarted [.attach, .detach, .clearStatusText] .done
  | skip : Passage .notStarted [] .done

theorem Passage.trans {p q r : Phase} {first second : List HostCall} (hfirst : Passage p first q)
    (hsecond : Passage q second r) : Passage p (first ++ second) r := by
  cases hfirst with
  | stay => exact hsecond
  | come =>
      cases hsecond with
      | stay => exact .come
      | leave => exact .visit
  | leave =>
      cases hsecond with
      | stay => exact .leave
  | visit =>
      cases hsecond with
      | stay => exact .visit
  | skip =>
      cases hsecond with
      | stay => exact .skip

theorem passage_serve (task : Task) (request : Request ε) :
    Passage task.phase (request.serve task).hostCalls (request.serve task).task.phase := by
  cases serve_served task request with
  | quiet hturn =>
      rw [hturn.1, Turn.hostCalls, hturn.2.2]
      exact .stay _
  | attached hphase _ _ _ hturn =>
      rw [hphase, hturn.1, Turn.hostCalls, hturn.2]
      exact .come
  | abandoned hphase _ hturn =>
      rw [hphase, hturn.1, Turn.hostCalls, hturn.2]
      exact .skip
  | withdrawn hphase hturn =>
      rw [hphase, hturn.1, Turn.hostCalls, hturn.2]
      exact .leave
  | evaluated _ _ _ _ _ _ _ _ opening hopening hturn =>
      -- The host is told what attaching takes, and after it perhaps what withdrawing takes.
      have hbefore : Passage task.phase opening .running := by
        rcases hopening with ⟨hphase, rfl, -⟩ | ⟨hphase, -, rfl, -⟩
        · rw [hphase]
          exact .stay _
        · rw [hphase]
          exact .come
      have hafter : Passage .running (partingCalls (request.serve task).task.isDone)
          (request.serve task).task.phase := by
        rw [hturn.phase, partingCalls]
        split
        · exact .leave
        · exact .stay _
      rw [hturn.hostCalls_eq]
      exact hbefore.trans hafter

theorem Passage.rank_le {p q : Phase} {calls : List HostCall} (h : Passage p calls q) :
    p.rank ≤ q.rank := by
  cases h <;> simp [Phase.rank]

theorem rank_phase_le_after (task : Task) (requests : List (Request ε)) :
    task.phase.rank ≤ (task.after requests).phase.rank := by
  induction requests generalizing task with
  | nil => exact Nat.le_refl _
  | cons request rest ih => exact Nat.le_trans (passage_serve task request).rank_le (ih _)

theorem isReady_of_attach {task : Task} {request : Request ε}
    (h : HostCall.attach ∈ (request.serve task).hostCalls ∨
      (task.phase ≠ .running ∧ (request.serve task).task.phase = .running)) :
    request.host.isReady request.env = true := by
  cases serve_served task request with
  | quiet hturn =>
      rw [Turn.hostCalls, hturn.2.2, hturn.1] at h
      rcases h with h | ⟨hbefore, hafter⟩
      · simp at h
      · exact absurd hafter hbefore
  | attached _ _ _ hready => exact hready
  | abandoned _ _ hturn => simp [Turn.hostCalls, hturn] at h
  | withdrawn hphase hturn => simp [Turn.hostCalls, hturn, Call.host?] at h
  | evaluated host routine world env env' hrequest config hconfig opening hopening hturn =>
      rcases hopening with ⟨hphase, rfl, -⟩ | ⟨-, hready, -, -⟩
      · rw [hturn.hostCalls_eq, partingCalls] at h
        rcases h with h | ⟨hbefore, -⟩
        · split at h <;> simp at h
        · exact absurd hphase hbefore
      · rw [hrequest]
        exact hready

/-! ## Without valid parameters -/

theorem start_of_error {task : Task} {cause : ConfigError} (hphase : task.phase = .notStarted)
    (hconfig : task.config = .error cause) (host : Host ε) (env : ε) :
    task.start host env = { answer := .error (.configuration cause), task, env } := by
  simp [start, hphase, hconfig]

/-- Until it is done, a task without valid parameters refuses to tick, however far it has come. -/
theorem tick_refused {task : Task} {cause : ConfigError} (hphase : task.phase ≠ .done)
    (hconfig : task.config = .error cause) (host : Host ε) (routine : CombatRoutine ε)
    (world : World) (env : ε) :
    task.tick host routine world env = { answer := .error (.configuration cause), task, env } := by
  cases hcase : task.phase with
  | notStarted => simp [tick, hcase, start_of_error hcase hconfig, Turn.withAnswer]
  | running => simp [tick, hcase, evaluate, hconfig]
  | done => exact absurd hcase hphase

theorem tick_of_error {task : Task} {cause : ConfigError} (hphase : task.phase = .notStarted)
    (hconfig : task.config = .error cause) (host : Host ε) (routine : CombatRoutine ε)
    (world : World) (env : ε) :
    task.tick host routine world env = { answer := .error (.configuration cause), task, env } :=
  tick_refused (by simp [hphase]) hconfig host routine world env

theorem after_of_error (cause : ConfigError) {requests : List (Request ε)}
    (hstop : ∀ request ∈ requests, request.isStop = false) :
    (fresh (.error cause)).after requests = fresh (.error cause) := by
  induction requests with
  | nil => rfl
  | cons request rest ih =>
      have hrest := ih fun r hr => hstop r (List.mem_cons_of_mem _ hr)
      cases request with
      | start host env =>
          rw [after, Request.serve, start_of_error rfl rfl]
          exact hrest
      | tick host routine world env =>
          rw [after, Request.serve, tick_of_error rfl rfl]
          exact hrest
      | stop host env => simpa [Request.isStop] using hstop _ List.mem_cons_self

theorem hostLog_of_error (cause : ConfigError) (requests : List (Request ε)) :
    (fresh (.error cause)).hostLog requests = [] := by
  induction requests using List.reverseRecOn with
  | nil => rfl
  | append_singleton requests request ih =>
      have hnotRunning : ((fresh (.error cause)).after requests).phase ≠ .running := by
        intro hphase
        obtain ⟨⟨params, hparams⟩, -⟩ := running_after_fresh hphase
        simp at hparams
      have hnotOk : ∀ config, ((fresh (.error cause)).after requests).config ≠ .ok config := by
        intro config hconfig
        rw [config_after] at hconfig
        simp [fresh] at hconfig
      rw [hostLog_concat, ih, List.nil_append, Turn.hostCalls]
      cases serve_served ((fresh (.error cause)).after requests) request with
      | quiet hturn => simp [hturn.2.2]
      | attached _ config hconfig => exact absurd hconfig (hnotOk config)
      | abandoned _ _ hturn => simp [hturn.2]
      | withdrawn hphase => exact absurd hphase hnotRunning
      | evaluated _ _ _ _ _ _ config hconfig => exact absurd hconfig (hnotOk config)

/-- The host's log and the phase of a task go together through every run, whatever its parameters,
and a task comes only to a host that is idle and composable. -/
theorem host_protocol (config : Except ConfigError Config) (requests : List (Request ε)) :
    let task := (fresh config).after requests
    let log := (fresh config).hostLog requests
    (log = [] ∨ log = [.attach] ∨ log = [.attach, .detach, .clearStatusText]) ∧
      (task.phase = .running ↔ log = [.attach]) ∧
      (∀ later : List (Request ε), task.phase.rank ≤ (task.after later).phase.rank) ∧
      (task.phase = .done → log = [] → (fresh config).StoppedBeforeStart requests) ∧
      (∀ cause, config = .error cause →
        log = [] ∧
          ((∀ request ∈ requests, request.isStop = false) →
            (∀ (host : Host ε) (env : ε), task.start host env =
              { answer := .error (.configuration cause), task, env }) ∧
            ∀ (host : Host ε) (routine : CombatRoutine ε) (world : World) (env : ε),
              task.tick host routine world env =
                { answer := .error (.configuration cause), task, env })) ∧
      ∀ request : Request ε,
        HostCall.attach ∈ (request.serve task).hostCalls ∨
            (task.phase ≠ .running ∧ (request.serve task).task.phase = .running) →
          request.host.isIdle request.env = true ∧
            request.host.isComposable request.env = true := by
  intro task log
  have hattendance := attendance_fresh config requests
  refine ⟨?_, ?_, fun later => rank_phase_le_after task later, ?_, ?_, ?_⟩
  · cases hattendance with
    | waiting _ hlog => exact .inl hlog
    | present _ hlog => exact .inr (.inl hlog)
    | gone _ hlog => exact .inr (.inr hlog)
    | absent _ hlog => exact .inl hlog
  · cases hattendance with
    | waiting hphase hlog => simp [task, log, hphase, hlog]
    | present hphase hlog => simp [task, log, hphase, hlog]
    | gone hphase hlog => simp [task, log, hphase, hlog]
    | absent hphase hlog => simp [task, log, hphase, hlog]
  · intro hdone hnil
    cases hattendance with
    | waiting hphase => simp [task, hphase] at hdone
    | present hphase => simp [task, hphase] at hdone
    | gone _ hlog => simp [log, hlog] at hnil
    | absent _ _ hstopped => exact hstopped
  · rintro cause rfl
    refine ⟨hostLog_of_error cause requests, fun hstop => ?_⟩
    have hfresh : task = fresh (.error cause) := after_of_error cause hstop
    rw [hfresh]
    exact ⟨fun host env => start_of_error rfl rfl host env,
      fun host routine world env => tick_of_error rfl rfl host routine world env⟩
  · intro request hattach
    have hready := isReady_of_attach hattach
    rwa [Host.isReady, Bool.and_eq_true] at hready

end Task

end Encounter
