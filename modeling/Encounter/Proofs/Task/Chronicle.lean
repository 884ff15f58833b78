import Encounter.Proofs.Policy.Warrant
import Encounter.Proofs.Task.Completion
import Encounter.Proofs.Task.Refinement

/-!
# The chronicle of a run

Of all that happens in a run, only the ticks that run the policy touch the exclusions or reach the
combat routine.  Each of them leaves a `Ruling`: when it was made, what it decided and what it asked
of the routine.  `Leads` follows the exclusions from ruling to ruling and holds every ruling to the
rules that one tick keeps, so that a fact about the exclusions of every run is a fact about lists of
rulings.
-/

namespace Encounter

variable {ε : Type}

structure Ruling where
  now : Timestamp
  decision : Option Decision
  calls : List CombatCall
  deriving DecidableEq, Repr

def CombatCall.changesExclusions : CombatCall → Bool
  | .exclude _ _ | .flush => true
  | .target _ _ | .perform _ _ => false

theorem CombatCall.changesExclusions_of_isVain {call : CombatCall} (h : call.isVain = true) :
    call.changesExclusions = false := by
  cases call <;> simp_all [isVain, changesExclusions]

namespace Ruling

def exclusionsAfter (r : Ruling) (s : Exclusions) : Exclusions :=
  r.decision.elim s (·.exclusionsAfter r.now s)

/-- What a ruling on the exclusions `s` keeps to. -/
structure Lawful (r : Ruling) (s : Exclusions) : Prop where
  calls : ∃ status vain, r.calls = vain ++ r.decision.elim [] (·.requests r.now status) ∧
    ∀ call ∈ vain, call.isVain = true
  not_contains : ∀ guid, r.decision = some (.exclude guid) → s.contains guid r.now = false

/-- All that a ruling can do to the exclusions `s`. -/
inductive Upshot (r : Ruling) (s : Exclusions) : Prop where
  | neutral (hflush : r.decision ≠ some .flushExclusions)
      (hexclusions : r.exclusionsAfter s = s)
      (hcalls : ∀ call ∈ r.calls, call.changesExclusions = false)
  | flushed (hdecision : r.decision = some .flushExclusions)
      (hexclusions : r.exclusionsAfter s = Exclusions.empty)
      (hcalls : ∃ vain, r.calls = vain ++ [.flush])
  | excluded (guid : Guid) (hdecision : r.decision = some (.exclude guid))
      (hnew : s.contains guid r.now = false)
      (hexclusions : r.exclusionsAfter s = (s.add guid Exclusions.lifetime r.now).2)
      (hcalls : ∃ vain, r.calls = vain ++ [.exclude guid (r.now.after Exclusions.lifetime)] ∧
        ∀ call ∈ vain, call.changesExclusions = false)

theorem Lawful.upshot {r : Ruling} {s : Exclusions} (h : r.Lawful s) : r.Upshot s := by
  obtain ⟨status, vain, hcalls, hvain⟩ := h.calls
  replace hvain : ∀ call ∈ vain, call.changesExclusions = false :=
    fun call hmem => CombatCall.changesExclusions_of_isVain (hvain call hmem)
  -- All decisions but two make requests that leave the exclusions alone.
  have hneutral : r.decision ≠ some .flushExclusions → r.exclusionsAfter s = s →
      (∀ call ∈ r.decision.elim [] (·.requests r.now status),
        call.changesExclusions = false) → r.Upshot s := by
    intro hflush hexclusions hrequests
    refine .neutral hflush hexclusions fun call hmem => ?_
    rw [hcalls] at hmem
    exact (List.mem_append.mp hmem).elim (hvain call) (hrequests call)
  cases hdecision : r.decision with
  | none => apply hneutral <;> simp [exclusionsAfter, hdecision]
  | some d =>
      simp only [hdecision, Option.elim_some] at hcalls
      cases d with
      | flushExclusions =>
          exact .flushed hdecision (by simp [exclusionsAfter, hdecision, Decision.exclusionsAfter,
            Exclusions.flush]) ⟨vain, hcalls⟩
      | exclude guid =>
          exact .excluded guid hdecision (h.not_contains guid hdecision)
            (by simp [exclusionsAfter, hdecision, Decision.exclusionsAfter])
            ⟨vain, hcalls, hvain⟩
      | complete | engagePriority | engageBoss | routine =>
          apply hneutral <;> simp [exclusionsAfter, hdecision, Decision.exclusionsAfter,
            Decision.requests, CombatCall.changesExclusions]

/-- The rulings, made one after the other, lead from one set of exclusions to another. -/
inductive Leads : Exclusions → List Ruling → Exclusions → Prop
  | nil (s : Exclusions) : Leads s [] s
  | cons {s s' : Exclusions} {r : Ruling} {rest : List Ruling} (hr : r.Lawful s)
      (hrest : Leads (r.exclusionsAfter s) rest s') : Leads s (r :: rest) s'

theorem Leads.append {s s' s'' : Exclusions} {first second : List Ruling}
    (hfirst : Leads s first s') (hsecond : Leads s' second s'') :
    Leads s (first ++ second) s'' := by
  induction hfirst with
  | nil => exact hsecond
  | cons hr _ ih => exact .cons hr (ih hsecond)

theorem Leads.exists_of_append {s s'' : Exclusions} {first second : List Ruling}
    (h : Leads s (first ++ second) s'') : ∃ s', Leads s first s' ∧ Leads s' second s'' := by
  induction first generalizing s with
  | nil => exact ⟨s, .nil s, h⟩
  | cons r first ih =>
      cases h with
      | cons hr hrest =>
          obtain ⟨s', hfirst, hsecond⟩ := ih hrest
          exact ⟨s', .cons hr hfirst, hsecond⟩

/-- What an empty chronicle has and every lawful ruling hands on, every chronicle has. -/
theorem Leads.induction_concat {P : List Ruling → Exclusions → Prop} {start s : Exclusions}
    {rulings : List Ruling} (h : Leads start rulings s) (hnil : P [] start)
    (hconcat : ∀ {rulings s r}, P rulings s → r.Lawful s →
      P (rulings ++ [r]) (r.exclusionsAfter s)) : P rulings s := by
  induction rulings using List.reverseRecOn generalizing s with
  | nil =>
      cases h
      exact hnil
  | append_singleton rulings r ih =>
      obtain ⟨s', hrulings, hlast⟩ := h.exists_of_append
      cases hlast with
      | cons hr hrest =>
          cases hrest
          exact hconcat (ih hrulings) hr

end Ruling

def Request.ruling? (task : Task) : Request ε → Option Ruling
  | .tick host routine world env =>
      let turn := (Request.tick host routine world env).serve task
      turn.answer.evaluation?.map fun (_, decision) =>
        { now := world.now, decision, calls := turn.combatCalls }
  | .start _ _ | .stop _ _ => none

namespace Task

/-- The rulings of a run, one for each tick that ran the policy. -/
def rulings (task : Task) : List (Request ε) → List Ruling
  | [] => []
  | request :: rest => (request.ruling? task).toList ++ (request.serve task).task.rulings rest

def combatLog (task : Task) (requests : List (Request ε)) : List CombatCall :=
  (task.turns requests).flatMap Turn.combatCalls

theorem runPolicy_lawful (task : Task) (config : Config) (routine : CombatRoutine ε)
    (world : World) (env : ε) (hdone : task.isDone = false) :
    let p := (task.runPolicy config routine world env).2
    let r : Ruling := { now := world.now, decision := p.decision, calls := p.calls }
    r.Lawful task.exclusions ∧ p.exclusions = r.exclusionsAfter task.exclusions := by
  intro p r
  have hpromise := (task.scene config world).tick_promise routine Policy.tree (task.progress env)
  have hverdict := task.runPolicy_verdict config routine world env hdone
  have hnew : ∀ guid, p.decision = some (.exclude guid) →
      task.exclusions.contains guid world.now = false := by
    intro guid hguid
    have hdecision := congrArg Verdict.decision hverdict
    exact (FlatPolicy.warrant_of_verdict (hdecision.symm.trans hguid)).not_contains
  by_cases hstatus : (task.runPolicy config routine world env).1 = .failure
  · obtain ⟨hexclusions, -, hrecorded, vain, hcalls, hvain⟩ := hpromise.kept hstatus
    have hdecision : p.decision = none := congrArg List.head? hrecorded
    replace hcalls : p.calls = vain := hcalls
    refine ⟨⟨⟨.failure, vain, ?_, hvain⟩, hnew⟩, ?_⟩
    · simp [r, hdecision, hcalls]
    · simp only [Ruling.exclusionsAfter, r, hdecision, Option.elim_none]
      exact hexclusions
  · obtain ⟨d, hexclusions, -, hrecorded, vain, hcalls, hvain⟩ := hpromise.ended hstatus
    have hdecision : p.decision = some d := congrArg List.head? hrecorded
    replace hcalls : p.calls =
        vain ++ d.requests world.now (task.runPolicy config routine world env).1 := hcalls
    refine ⟨⟨⟨(task.runPolicy config routine world env).1, vain, ?_, hvain⟩, hnew⟩, ?_⟩
    · simp [r, hdecision, hcalls]
    · simp only [Ruling.exclusionsAfter, r, hdecision, Option.elim_some]
      exact hexclusions

/-- A request leaves a lawful ruling, which tells all of its part in the exclusions and in the
routine, or has no part in them. -/
theorem Coherent.ruling?_cases {task : Task} (h : task.Coherent) (request : Request ε) :
    (request.ruling? task = none ∧ (request.serve task).combatCalls = [] ∧
        (request.serve task).task.exclusions = task.exclusions) ∨
      ∃ r : Ruling, request.ruling? task = some r ∧ r.Lawful task.exclusions ∧
        (request.serve task).combatCalls = r.calls ∧
        (request.serve task).task.exclusions = r.exclusionsAfter task.exclusions := by
  cases hevaluation : (request.serve task).answer.evaluation? with
  | none =>
      obtain ⟨hcalls, hexclusions, -⟩ := quiet_of_no_evaluation hevaluation
      have hruling : request.ruling? task = none := by
        cases request <;> simp [Request.ruling?, hevaluation]
      exact .inl ⟨hruling, hcalls, hexclusions⟩
  | some report =>
      obtain ⟨host, routine, world, env, env', config, opening, rfl, -, hdone, hturn⟩ :=
        h.evaluated_of_report hevaluation
      obtain ⟨hlawful, hexclusions⟩ := task.runPolicy_lawful config routine world env' hdone
      refine .inr ⟨_, ?_, hlawful, hturn.combatCalls_eq, hturn.exclusions.trans hexclusions⟩
      simp only [Request.ruling?, hturn.evaluation?_eq, hturn.combatCalls_eq, Option.map_some]

theorem rulings_concat (task : Task) (requests : List (Request ε)) (request : Request ε) :
    task.rulings (requests ++ [request]) =
      task.rulings requests ++ (request.ruling? (task.after requests)).toList := by
  induction requests generalizing task with
  | nil => simp [rulings, after]
  | cons first rest ih => simp [rulings, after, ih]

theorem combatLog_concat (task : Task) (requests : List (Request ε)) (request : Request ε) :
    task.combatLog (requests ++ [request]) =
      task.combatLog requests ++ (request.serve (task.after requests)).combatCalls := by
  simp [combatLog, turns_concat]

/-- The rulings of a run lead to its exclusions, and their calls are all that the run has asked of
the combat routine. -/
theorem leads_fresh (config : Except ConfigError Config) (requests : List (Request ε)) :
    Ruling.Leads Exclusions.empty ((fresh config).rulings requests)
        ((fresh config).after requests).exclusions ∧
      (fresh config).combatLog requests =
        ((fresh config).rulings requests).flatMap Ruling.calls := by
  induction requests using List.reverseRecOn with
  | nil => exact ⟨.nil _, rfl⟩
  | append_singleton requests request ih =>
      obtain ⟨hleads, hlog⟩ := ih
      rw [rulings_concat, combatLog_concat, after_concat, hlog]
      rcases ((coherent_fresh config).after requests).ruling?_cases request with
        ⟨hruling, hcalls, hexclusions⟩ | ⟨r, hruling, hlawful, hcalls, hexclusions⟩
      · rw [hruling, hcalls, hexclusions]
        simpa using hleads
      · rw [hruling, hcalls, hexclusions]
        exact ⟨hleads.append (.cons hlawful (.nil _)), by simp⟩

end Task

end Encounter
