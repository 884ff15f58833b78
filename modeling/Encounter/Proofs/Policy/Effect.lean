import Encounter.Policy.Tree
import Encounter.Proofs.Tree.Outcome

/-!
# What one tick can do

A move either comes to nothing, in which case all that it leaves behind is a request that was
refused or failed, or it has the effect of one decision and records that decision.  `Idled` and
`Acted` say this of a context against the context a tick started from.  Trees only ever go on after
a move that came to nothing, so the two predicates hold of every tree as soon as they hold of every
move.
-/

namespace Encounter

variable {ε : Type}

/-- A request that came to nothing. -/
def CombatCall.isVain : CombatCall → Bool
  | .target _ accepted => !accepted
  | .perform _ status => status.isFailure
  | .exclude _ _ | .flush => false

namespace Decision

def exclusionsAfter (now : Timestamp) (s : Exclusions) : Decision → Exclusions
  | .exclude guid => (s.add guid Exclusions.lifetime now).2
  | .flushExclusions => s.flush
  | .complete | .engagePriority _ | .engageBoss _ | .routine _ => s

def completionAfter (c : Completion) : Decision → Completion
  | .complete => c.markDone.2
  | .exclude _ | .flushExclusions | .engagePriority _ | .engageBoss _ | .routine _ => c

def requests (now : Timestamp) (status : Status) : Decision → List CombatCall
  | .complete => []
  | .exclude guid => [.exclude guid (now.after Exclusions.lifetime)]
  | .engagePriority guid | .engageBoss guid => [.target guid true]
  | .flushExclusions => [.flush]
  | .routine part => [.perform part status]

theorem length_requests_le (now : Timestamp) (status : Status) (d : Decision) :
    (d.requests now status).length ≤ 1 := by
  cases d <;> simp [requests]

theorem isDone_completionAfter (c : Completion) (d : Decision) :
    (d.completionAfter c).isDone = true ↔ c.isDone = true ∨ d = .complete := by
  cases d <;> simp [completionAfter, Completion.markDone]

end Decision

namespace Progress

/-- Nothing but vain requests lies between `start` and `p`. -/
structure Idled (start p : Progress ε) : Prop where
  exclusions : p.exclusions = start.exclusions
  completion : p.completion = start.completion
  recorded : p.recorded = start.recorded
  calls : ∃ vain, p.calls = start.calls ++ vain ∧ ∀ call ∈ vain, call.isVain = true

/-- One decision, taken at `now` with outcome `status`, and before it nothing but vain requests lie
between `start` and `p`. -/
def Acted (now : Timestamp) (start : Progress ε) (status : Status) (p : Progress ε) : Prop :=
  ∃ d : Decision,
    p.exclusions = d.exclusionsAfter now start.exclusions ∧
    p.completion = d.completionAfter start.completion ∧
    p.recorded = start.recorded ++ [d] ∧
    ∃ vain, p.calls = start.calls ++ vain ++ d.requests now status ∧
      ∀ call ∈ vain, call.isVain = true

theorem Idled.refl (p : Progress ε) : Idled p p where
  exclusions := rfl
  completion := rfl
  recorded := rfl
  calls := ⟨[], by simp⟩

theorem Idled.trans {start p q : Progress ε} (hp : Idled start p) (hq : Idled p q) :
    Idled start q := by
  obtain ⟨first, hfirst, hfirstVain⟩ := hp.calls
  obtain ⟨second, hsecond, hsecondVain⟩ := hq.calls
  refine ⟨hq.exclusions.trans hp.exclusions, hq.completion.trans hp.completion,
    hq.recorded.trans hp.recorded, first ++ second, ?_, ?_⟩
  · rw [hsecond, hfirst, List.append_assoc]
  · intro call hmem
    rcases List.mem_append.mp hmem with hmem | hmem
    · exact hfirstVain call hmem
    · exact hsecondVain call hmem

theorem Acted.at_once {now : Timestamp} {start p : Progress ε} {status : Status} (d : Decision)
    (hexclusions : p.exclusions = d.exclusionsAfter now start.exclusions)
    (hcompletion : p.completion = d.completionAfter start.completion)
    (hrecorded : p.recorded = start.recorded ++ [d])
    (hcalls : p.calls = start.calls ++ d.requests now status) :
    Acted now start status p := by
  refine ⟨d, hexclusions, hcompletion, hrecorded, [], ?_, ?_⟩
  · rw [hcalls, List.append_nil]
  · simp

theorem Acted.of_idled {now : Timestamp} {start p q : Progress ε} {status : Status}
    (hp : Idled start p) (hq : Acted now p status q) : Acted now start status q := by
  obtain ⟨first, hfirst, hfirstVain⟩ := hp.calls
  obtain ⟨d, hexclusions, hcompletion, hrecorded, second, hsecond, hsecondVain⟩ := hq
  rw [hp.exclusions] at hexclusions
  rw [hp.completion] at hcompletion
  rw [hp.recorded] at hrecorded
  refine ⟨d, hexclusions, hcompletion, hrecorded, first ++ second, ?_, ?_⟩
  · rw [hsecond, hfirst, List.append_assoc start.calls]
  · intro call hmem
    rcases List.mem_append.mp hmem with hmem | hmem
    · exact hfirstVain call hmem
    · exact hsecondVain call hmem

end Progress

namespace Move

variable (routine : CombatRoutine ε) (scene : Scene) (p : Progress ε)

/-- A move idles if it fails and acts if it does not. -/
abbrev Promise (now : Timestamp) (start : Progress ε) : Status × Progress ε → Prop :=
  Outcome start.Idled (start.Acted now)

theorem engage_promise (now : Timestamp) (decision : Guid → Decision) (creature : Option Creature)
    (hdecision : ∀ guid, decision guid = .engagePriority guid ∨
      decision guid = .engageBoss guid) :
    Promise now p (engage routine decision p creature) := by
  cases creature with
  | none => exact .of_kept (Progress.Idled.refl p)
  | some creature =>
      rcases hanswer : routine.target creature.guid p.env with ⟨accepted, env⟩
      cases accepted with
      | false =>
          simp only [engage, Progress.target, hanswer]
          exact .of_kept ⟨rfl, rfl, rfl, [.target creature.guid false], rfl,
            by simp [CombatCall.isVain]⟩
      | true =>
          simp only [engage, Progress.target, hanswer]
          apply Outcome.of_ended (by simp)
          rcases hdecision creature.guid with hengage | hengage
          · rw [hengage]
            exact .at_once (.engagePriority creature.guid) rfl rfl rfl rfl
          · rw [hengage]
            exact .at_once (.engageBoss creature.guid) rfl rfl rfl rfl

theorem delegate_promise (now : Timestamp) (part : RoutinePart) :
    Promise now p (delegate routine part p) := by
  rcases hanswer : routine.perform part p.env with ⟨status, env⟩
  by_cases hstatus : status = .failure
  · subst hstatus
    simp only [delegate, Progress.perform, hanswer]
    exact .of_kept ⟨rfl, rfl, rfl, [.perform part .failure], rfl,
      by simp [CombatCall.isVain]⟩
  · have hdelegate : delegate routine part p =
        (status, ({ p with env, calls := p.calls ++ [.perform part status] } :
          Progress ε).record (.routine part)) := by
      cases status <;> simp_all [delegate, Progress.perform]
    rw [hdelegate]
    exact .of_ended hstatus (.at_once (.routine part) rfl rfl rfl rfl)

theorem perform_promise (move : Move) :
    Promise scene.now p (move.perform routine scene p) := by
  cases move with
  | complete =>
      apply Outcome.of_ended (by simp)
      exact .at_once .complete rfl rfl rfl (List.append_nil _).symm
  | excludeCandidate =>
      cases hcandidate : scene.seen.candidate with
      | none =>
          simp only [perform, hcandidate]
          exact .of_kept (Progress.Idled.refl p)
      | some creature =>
          simp only [perform, hcandidate]
          apply Outcome.of_ended (by simp)
          exact .at_once (.exclude creature.guid) rfl rfl rfl rfl
  | targetPriority => exact engage_promise routine p _ _ _ fun _ => .inl rfl
  | flushExclusions =>
      apply Outcome.of_ended (by simp)
      exact .at_once .flushExclusions rfl rfl rfl rfl
  | targetBoss => exact engage_promise routine p _ _ _ fun _ => .inr rfl
  | heal => exact delegate_promise routine p _ _
  | combatBuff => exact delegate_promise routine p _ _
  | combat => exact delegate_promise routine p _ _

end Move

theorem Scene.tick_promise
    (scene : Scene) (routine : CombatRoutine ε) (tree : PolicyTree) (start : Progress ε) :
    Move.Promise scene.now start (tree.tick (scene.behaviour routine) start) := by
  apply Node.tick_outcome
  · intro move p hp
    have hmove := Move.perform_promise routine scene p move
    constructor
    · intro hfailed
      exact hp.trans (hmove.kept hfailed)
    · intro hacted
      exact .of_idled hp (hmove.ended hacted)
  · exact Progress.Idled.refl start

/-! ## Ticks that are under way -/

namespace Move

variable {routine : CombatRoutine ε}

theorem engage_ne_running (decision : Guid → Decision) (p : Progress ε)
    (creature : Option Creature) : (engage routine decision p creature).1 ≠ .running := by
  cases creature with
  | none => simp [engage]
  | some creature =>
      rcases hanswer : p.target routine creature.guid with ⟨_ | _, p'⟩ <;> simp [engage, hanswer]

variable (hroutine : ∀ part env, (routine.perform part env).1 ≠ .running)
include hroutine

theorem delegate_ne_running (part : RoutinePart) (p : Progress ε) :
    (delegate routine part p).1 ≠ .running := by
  have hpart : (p.perform routine part).1 ≠ .running := hroutine part p.env
  rcases hanswer : p.perform routine part with ⟨_ | _ | _, p'⟩ <;>
    simp [delegate, hanswer] at hpart ⊢

theorem perform_ne_running (scene : Scene) (p : Progress ε) (move : Move) :
    (move.perform routine scene p).1 ≠ .running := by
  cases move with
  | complete => simp [perform]
  | excludeCandidate => cases hcandidate : scene.seen.candidate <;> simp [perform, hcandidate]
  | targetPriority => exact engage_ne_running _ p _
  | flushExclusions => simp [perform]
  | targetBoss => exact engage_ne_running _ p _
  | heal | combatBuff | combat => exact delegate_ne_running hroutine _ p

end Move

/-- Only the combat routine can leave a tick under way. -/
theorem Scene.tick_ne_running {routine : CombatRoutine ε}
    (hroutine : ∀ part env, (routine.perform part env).1 ≠ .running) (scene : Scene)
    (tree : PolicyTree) (start : Progress ε) :
    (tree.tick (scene.behaviour routine) start).1 ≠ .running := by
  have houtcome : Outcome (fun _ => True) (fun status _ => status ≠ .running)
      (tree.tick (scene.behaviour routine) start) := by
    refine Node.tick_outcome (fun move p _ => ?_) tree start trivial
    exact ⟨fun _ => trivial, fun _ => Move.perform_ne_running hroutine scene p move⟩
  intro hrunning
  exact houtcome.ended (by simp [hrunning]) hrunning

/-! ## One decision for each tick -/

theorem CombatCall.not_flush_of_isVain {call : CombatCall} (hvain : call.isVain = true) :
    call ≠ .flush := by
  rintro rfl
  simp [isVain] at hvain

theorem CombatCall.not_exclude_of_isVain {call : CombatCall} (hvain : call.isVain = true)
    (guid : Guid) (expiry : Timestamp) : call ≠ .exclude guid expiry := by
  rintro rfl
  simp [isVain] at hvain

theorem mem_of_mem_dropLast_append {vain last : List CombatCall} {call : CombatCall}
    (hlast : last.length ≤ 1) (hmem : call ∈ (vain ++ last).dropLast) : call ∈ vain := by
  match last, hlast with
  | [], _ =>
      rw [List.append_nil] at hmem
      exact List.dropLast_subset _ hmem
  | [_], _ => simpa using hmem

/-- Whatever the tree, a tick on a fresh context records one decision if it does not fail and none
if it does; all requests but the last are in vain; and a tick that fails leaves exclusions and
completion alone on both sides. -/
theorem Scene.tick_decides_once
    (scene : Scene) (routine : CombatRoutine ε) (tree : PolicyTree)
    (exclusions : Exclusions) (completion : Completion) (env : ε) :
    let answer := tree.tick (scene.behaviour routine) { exclusions, completion, env }
    answer.2.recorded.length ≤ 1 ∧
      (answer.2.decision.isSome = true ↔ answer.1 ≠ .failure) ∧
      (∀ call ∈ answer.2.calls.dropLast, call.isVain = true) ∧
      (answer.1 = .failure →
        answer.2.exclusions = exclusions ∧ answer.2.completion = completion ∧
          ∀ call ∈ answer.2.calls,
            call ≠ .flush ∧ ∀ guid expiry, call ≠ .exclude guid expiry) := by
  intro answer
  have hpromise := scene.tick_promise routine tree { exclusions, completion, env }
  by_cases hstatus : answer.1 = .failure
  · obtain ⟨hexclusions, hcompletion, hrecorded, vain, hcalls, hvain⟩ := hpromise.kept hstatus
    replace hrecorded : answer.2.recorded = [] := hrecorded
    replace hcalls : answer.2.calls = vain := hcalls
    refine ⟨by simp [hrecorded], by simp [Progress.decision, hrecorded, hstatus], ?_, ?_⟩
    · intro call hmem
      rw [hcalls] at hmem
      exact hvain call (List.dropLast_subset _ hmem)
    · intro _
      refine ⟨hexclusions, hcompletion, fun call hmem => ?_⟩
      rw [hcalls] at hmem
      exact ⟨CombatCall.not_flush_of_isVain (hvain call hmem),
        CombatCall.not_exclude_of_isVain (hvain call hmem)⟩
  · obtain ⟨d, -, -, hrecorded, vain, hcalls, hvain⟩ := hpromise.ended hstatus
    replace hrecorded : answer.2.recorded = [d] := hrecorded
    replace hcalls : answer.2.calls = vain ++ d.requests scene.now answer.1 := hcalls
    refine ⟨by simp [hrecorded], by simp [Progress.decision, hrecorded, hstatus], ?_, ?_⟩
    · intro call hmem
      rw [hcalls] at hmem
      exact hvain call (mem_of_mem_dropLast_append (d.length_requests_le _ _) hmem)
    · intro hfailed
      exact absurd hfailed hstatus

end Encounter
