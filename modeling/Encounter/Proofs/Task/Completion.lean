import Encounter.Proofs.Task.Run

/-!
# Completion and what comes after it

The completion flag is turned deep inside the policy, the phase by the task around it, and the
decision is only reported.  Over whole runs the three agree: the flag is up exactly if completion
was reported, that report is the last one of a run of the policy, and after it nothing happens.
-/

namespace Encounter

variable {ε : Type}

theorem Reply.not_completes {reply : Reply} (h : reply.evaluation? = none) :
    ¬ reply.completes := by
  rintro ⟨status, hstatus⟩
  simp [h] at hstatus

theorem Request.evaluation?_finished (request : Request ε) :
    request.finished.evaluation? = none := by
  cases request <;> rfl

namespace Task

theorem quiet_of_no_evaluation {task : Task} {request : Request ε}
    (h : (request.serve task).answer.evaluation? = none) :
    (request.serve task).combatCalls = [] ∧
      (request.serve task).task.exclusions = task.exclusions ∧
      (request.serve task).task.completion = task.completion := by
  cases serve_served task request with
  | quiet hturn => simp [Turn.combatCalls, hturn.1, hturn.2.2]
  | attached _ _ _ _ hturn => simp [Turn.combatCalls, hturn, Call.combat?]
  | abandoned _ _ hturn => simp [Turn.combatCalls, hturn]
  | withdrawn _ hturn => simp [Turn.combatCalls, hturn, Call.combat?]
  | evaluated _ _ _ _ _ _ _ _ _ _ hturn => simp [hturn.evaluation?_eq] at h

/-- A report can only come from a tick that has run the policy, on a task that was not complete. -/
theorem Coherent.evaluated_of_report {task : Task} (h : task.Coherent) {request : Request ε}
    {report : Status × Option Decision}
    (hreport : (request.serve task).answer.evaluation? = some report) :
    ∃ (host : Host ε) (routine : CombatRoutine ε) (world : World) (env env' : ε)
      (config : Config) (opening : List HostCall),
      request = .tick host routine world env ∧ task.config = .ok config ∧ task.isDone = false ∧
        task.Evaluated config routine world env' opening (request.serve task) := by
  cases serve_served task request with
  | quiet _ hreply => simp [hreply] at hreport
  | attached _ _ _ _ _ hreply => simp [hreply] at hreport
  | abandoned _ _ _ hreply => simp [hreply] at hreport
  | withdrawn _ _ hreply => simp [hreply] at hreport
  | evaluated host routine world env env' hrequest config hconfig opening hopening hturn =>
      have hdone : task.isDone = false := by
        apply h.isDone_eq_false
        rcases hopening with ⟨hphase, -⟩ | ⟨hphase, -⟩ <;> simp [hphase]
      exact ⟨host, routine, world, env, env', config, opening, hrequest, hconfig, hdone, hturn⟩

theorem Coherent.isDone_serve_iff {task : Task} (h : task.Coherent) (request : Request ε) :
    (request.serve task).task.isDone = true ↔
      task.isDone = true ∨ (request.serve task).answer.completes := by
  cases hreply : (request.serve task).answer.evaluation? with
  | none =>
      obtain ⟨-, -, hcompletion⟩ := quiet_of_no_evaluation hreply
      have hnot := Reply.not_completes hreply
      simp [isDone, hcompletion, hnot]
  | some report =>
      obtain ⟨_, _, _, _, _, _, _, -, -, hdone, hturn⟩ := h.evaluated_of_report hreply
      rw [hturn.isDone_iff hdone]
      simp [hdone]

theorem isDone_after_iff (config : Except ConfigError Config) (requests : List (Request ε)) :
    ((fresh config).after requests).isDone = true ↔
      ∃ turn ∈ (fresh config).turns requests, turn.answer.completes := by
  induction requests using List.reverseRecOn with
  | nil => simp [fresh, after, turns, isDone]
  | append_singleton requests request ih =>
      have hcoherent := (coherent_fresh config).after requests
      rw [after_concat, turns_concat, hcoherent.isDone_serve_iff, ih]
      constructor
      · rintro (⟨turn, hturn, hcompletes⟩ | hcompletes)
        · exact ⟨turn, List.mem_append_left _ hturn, hcompletes⟩
        · exact ⟨_, List.mem_append_right _ List.mem_cons_self, hcompletes⟩
      · rintro ⟨turn, hturn, hcompletes⟩
        rcases List.mem_append.mp hturn with hturn | hturn
        · exact .inl ⟨turn, hturn, hcompletes⟩
        · rw [List.mem_singleton] at hturn
          exact .inr (hturn ▸ hcompletes)

theorem Coherent.phase_of_completes {task : Task} (h : task.Coherent) {request : Request ε}
    (hcompletes : (request.serve task).answer.completes) :
    (request.serve task).task.phase = .done :=
  (h.serve request).done_of_isDone ((h.isDone_serve_iff request).mpr (.inr hcompletes))

/-- Completion is reported at most once and last of all reports, it ends the task, and it is what
the flag stands for; without a report nothing but the phase moves; and a task that is done answers
every later request with nothing but that. -/
theorem completion_is_final (config : Except ConfigError Config) (requests : List (Request ε)) :
    let task := (fresh config).after requests
    let turns := (fresh config).turns requests
    (task.isDone = true ↔ ∃ turn ∈ turns, turn.answer.completes) ∧
      (∀ before turn after, turns = before ++ turn :: after → turn.answer.completes →
        turn.task.phase = .done ∧
          (∀ later ∈ after, later.answer.evaluation? = none) ∧
          ∀ other ∈ before ++ after, ¬ other.answer.completes) ∧
      (∀ request : Request ε, (request.serve task).answer.evaluation? = none →
        (request.serve task).combatCalls = [] ∧
          (request.serve task).task.exclusions = task.exclusions ∧
          (request.serve task).task.completion = task.completion) ∧
      (task.phase = .done → ∀ later : List (Request ε),
        task.turns later = later.map fun request =>
          { answer := request.finished, task, env := request.env, calls := [] }) := by
  intro task turns
  refine ⟨isDone_after_iff config requests, ?_, fun request => quiet_of_no_evaluation,
    fun hphase later => turns_of_done hphase later⟩
  intro before turn after hturns hcompletes
  obtain ⟨first, request, second, -, rfl, rfl, rfl⟩ := exists_request_of_turns_eq hturns
  have hcoherent := (coherent_fresh config).after first
  have hphase := hcoherent.phase_of_completes hcompletes
  have hlater : ∀ later ∈ (request.serve ((fresh config).after first)).task.turns second,
      later.answer.evaluation? = none := by
    intro later hmem
    rw [turns_of_done hphase] at hmem
    obtain ⟨r, -, rfl⟩ := List.mem_map.mp hmem
    exact r.evaluation?_finished
  refine ⟨hphase, hlater, ?_⟩
  intro other hmem hother
  -- An earlier report of completion would have left a task that is done and reports nothing.
  rcases List.mem_append.mp hmem with hmem | hmem
  · have hdone := (isDone_after_iff config first).mpr ⟨other, hmem, hother⟩
    rw [serve_of_done (hcoherent.done_of_isDone hdone)] at hcompletes
    exact Reply.not_completes request.evaluation?_finished hcompletes
  · exact Reply.not_completes (hlater other hmem) hother

end Task

end Encounter
