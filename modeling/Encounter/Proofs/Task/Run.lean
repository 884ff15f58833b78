import Encounter.Proofs.Task.Request
import Mathlib.Data.List.Induction

/-!
# Runs of a task

A run is a list of requests served one after the other.  Invariants of runs are proved from the
last request backward: what holds after some requests is carried over by the inversion of the next.
-/

namespace Encounter

variable {ε : Type}

def Host.welcoming : Host Unit where
  isIdle _ := true
  isComposable _ := true
  tell _ env := env

/-- Has nothing to object to a target and succeeds in everything. -/
def CombatRoutine.obedient : CombatRoutine Unit where
  target _ env := (true, env)
  exclude _ _ env := env
  flush env := env
  perform _ env := (.success, env)

namespace Task

def fresh (config : Except ConfigError Config) : Task where
  config := config

def after (task : Task) : List (Request ε) → Task
  | [] => task
  | request :: rest => (request.serve task).task.after rest

def turns (task : Task) : List (Request ε) → List (Turn ε Reply)
  | [] => []
  | request :: rest => request.serve task :: (request.serve task).task.turns rest

def hostLog (task : Task) (requests : List (Request ε)) : List HostCall :=
  (task.turns requests).flatMap Turn.hostCalls

theorem after_append (task : Task) (first second : List (Request ε)) :
    task.after (first ++ second) = (task.after first).after second := by
  induction first generalizing task with
  | nil => rfl
  | cons request first ih => exact ih _

theorem turns_append (task : Task) (first second : List (Request ε)) :
    task.turns (first ++ second) = task.turns first ++ (task.after first).turns second := by
  induction first generalizing task with
  | nil => rfl
  | cons request first ih =>
      rw [List.cons_append, turns, ih]
      rfl

theorem after_concat (task : Task) (requests : List (Request ε)) (request : Request ε) :
    task.after (requests ++ [request]) = (request.serve (task.after requests)).task := by
  rw [after_append]
  rfl

theorem turns_concat (task : Task) (requests : List (Request ε)) (request : Request ε) :
    task.turns (requests ++ [request]) =
      task.turns requests ++ [request.serve (task.after requests)] := by
  rw [turns_append]
  rfl

theorem hostLog_concat (task : Task) (requests : List (Request ε)) (request : Request ε) :
    task.hostLog (requests ++ [request]) =
      task.hostLog requests ++ (request.serve (task.after requests)).hostCalls := by
  simp [hostLog, turns_concat]

theorem getElem?_turns (task : Task) (requests : List (Request ε)) (i : ℕ) :
    (task.turns requests)[i]? =
      requests[i]?.map fun request => request.serve (task.after (requests.take i)) := by
  induction requests generalizing task i with
  | nil => simp [turns]
  | cons request rest ih =>
      cases i with
      | zero => rfl
      | succ i =>
          rw [turns, List.getElem?_cons_succ, List.getElem?_cons_succ, ih, List.take_succ_cons]
          rfl

theorem getElem?_turns_range (task : Task) (requests : ℕ → Request ε) {i n : ℕ} (hi : i < n) :
    (task.turns ((List.range n).map requests))[i]? =
      some ((requests i).serve (task.after ((List.range i).map requests))) := by
  rw [getElem?_turns, List.getElem?_map, List.getElem?_range hi, ← List.map_take, List.take_range,
    Nat.min_eq_left (Nat.le_of_lt hi)]
  rfl

theorem exists_request_of_turns_eq {task : Task} {requests : List (Request ε)}
    {before after : List (Turn ε Reply)} {turn : Turn ε Reply}
    (h : task.turns requests = before ++ turn :: after) :
    ∃ first request second, requests = first ++ request :: second ∧
      before = task.turns first ∧ turn = request.serve (task.after first) ∧
        after = turn.task.turns second := by
  induction before generalizing task requests with
  | nil =>
      cases requests with
      | nil => simp [turns] at h
      | cons request rest =>
          obtain ⟨hturn, hafter⟩ := List.cons.inj h
          refine ⟨[], request, rest, rfl, rfl, hturn.symm, ?_⟩
          rw [← hafter, hturn]
  | cons head before ih =>
      cases requests with
      | nil => simp [turns] at h
      | cons request rest =>
          obtain ⟨hhead, htail⟩ := List.cons.inj h
          obtain ⟨first, request', second, rfl, hbefore, hturn, hafter⟩ := ih htail
          refine ⟨request :: first, request', second, rfl, ?_, hturn, hafter⟩
          rw [← hhead, hbefore]
          rfl

/-! ## What every run keeps -/

theorem config_serve (task : Task) (request : Request ε) :
    (request.serve task).task.config = task.config := by
  cases serve_served task request with
  | quiet hturn => rw [hturn.1]
  | attached _ _ _ _ hturn => rw [hturn.1]
  | abandoned _ _ hturn => rw [hturn.1]
  | withdrawn _ hturn => rw [hturn.1]
  | evaluated _ _ _ _ _ _ _ _ _ _ hturn => exact hturn.config_eq

theorem config_after (task : Task) (requests : List (Request ε)) :
    (task.after requests).config = task.config := by
  induction requests using List.reverseRecOn with
  | nil => rfl
  | append_singleton requests request ih => rw [after_concat, config_serve, ih]

/-- A task that is complete is done, and one that is running has its parameters. -/
structure Coherent (task : Task) : Prop where
  done_of_isDone : task.isDone = true → task.phase = .done
  ok_of_running : task.phase = .running → ∃ config, task.config = .ok config

theorem coherent_fresh (config : Except ConfigError Config) : (fresh config).Coherent where
  done_of_isDone h := by simp [fresh, isDone] at h
  ok_of_running h := by simp [fresh] at h

theorem Coherent.isDone_eq_false {task : Task} (h : task.Coherent) (hphase : task.phase ≠ .done) :
    task.isDone = false := by
  by_contra hdone
  exact hphase (h.done_of_isDone (by simpa using hdone))

theorem Coherent.serve {task : Task} (h : task.Coherent) (request : Request ε) :
    (request.serve task).task.Coherent := by
  cases serve_served task request with
  | quiet hturn =>
      rw [hturn.1]
      exact h
  | attached hphase config hconfig _ hturn =>
      rw [hturn.1]
      have hdone : task.isDone = false := h.isDone_eq_false (by simp [hphase])
      constructor
      · intro hdone'
        exact absurd hdone' (by simpa [isDone] using hdone)
      · intro _
        exact ⟨config, hconfig⟩
  | abandoned _ _ hturn =>
      rw [hturn.1]
      exact ⟨fun _ => rfl, fun hrunning => by simp at hrunning⟩
  | withdrawn _ hturn =>
      rw [hturn.1]
      exact ⟨fun _ => rfl, fun hrunning => by simp at hrunning⟩
  | evaluated _ _ _ _ _ _ config hconfig _ _ hturn =>
      constructor
      · intro hdone
        rw [hturn.phase, if_pos hdone]
      · intro _
        exact ⟨config, hturn.config_eq.trans hconfig⟩

theorem Coherent.after {task : Task} (h : task.Coherent) (requests : List (Request ε)) :
    (task.after requests).Coherent := by
  induction requests using List.reverseRecOn with
  | nil => exact h
  | append_singleton requests request ih =>
      rw [after_concat]
      exact ih.serve request

theorem running_after_fresh {config : Except ConfigError Config} {requests : List (Request ε)}
    (hphase : ((fresh config).after requests).phase = .running) :
    (∃ params, config = .ok params) ∧ ((fresh config).after requests).isDone = false := by
  have hcoherent := (coherent_fresh config).after requests
  constructor
  · have hconfig := hcoherent.ok_of_running hphase
    rwa [config_after] at hconfig
  · exact hcoherent.isDone_eq_false (by simp [hphase])

theorem serve_of_done {task : Task} (hphase : task.phase = .done) (request : Request ε) :
    request.serve task = { answer := request.finished, task, env := request.env } := by
  cases request with
  | start host env => simp [Request.serve, start, hphase, Turn.withAnswer, Request.finished,
      Request.env]
  | tick host routine world env => simp [Request.serve, tick, hphase, Turn.withAnswer,
      Request.finished, Request.env]
  | stop host env => simp [Request.serve, stop, hphase, Turn.withAnswer, Request.finished,
      Request.env]

theorem turns_of_done {task : Task} (hphase : task.phase = .done) (requests : List (Request ε)) :
    task.turns requests =
      requests.map fun request => { answer := request.finished, task, env := request.env } := by
  induction requests with
  | nil => rfl
  | cons request rest ih =>
      rw [turns, serve_of_done hphase, List.map_cons]
      exact congrArg _ ih

end Task

end Encounter
