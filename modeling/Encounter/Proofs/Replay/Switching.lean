import Encounter.Proofs.Config.Ranking
import Encounter.Proofs.Replay.Length
import Encounter.Proofs.Task.Chronicle
import Encounter.Proofs.Task.Following
import Encounter.Proofs.Task.Targeting
import Mathlib.Data.List.Chain

/-!
# Switches of target in a replay

The simulated routine turns to what it has accepted last, and the reel shows that as the player's
target in every frame that follows.  Where the identities in a frame are distinct, the policy does
not ask for the target that it is shown.  So the target is the creature engaged last, and is not
engaged again before another one is.
-/

namespace Encounter

variable {ε : Type}

/-! ## Engagements and the requests that they make -/

def Decision.engaged? : Decision → Option Guid
  | .engagePriority guid | .engageBoss guid => some guid
  | .complete | .exclude _ | .flushExclusions | .routine _ => none

def TickResult.engaged? (report : TickResult) : Option Guid :=
  report.decision?.bind Decision.engaged?

/-- The target that a call has led to. -/
def CombatCall.acquired? : CombatCall → Option Guid
  | .target guid true => some guid
  | .target _ false | .exclude _ _ | .flush | .perform _ _ => none

theorem CombatCall.acquired?_eq_some_iff {call : CombatCall} {guid : Guid} :
    call.acquired? = some guid ↔ call = .target guid true := by
  cases call with
  | target other accepted => cases accepted <;> simp [acquired?]
  | exclude | flush | perform => simp [acquired?]

theorem CombatCall.acquired?_of_isVain {call : CombatCall} (h : call.isVain = true) :
    call.acquired? = none := by
  cases call with
  | target guid accepted => simp_all [isVain, acquired?]
  | exclude | flush | perform => rfl

theorem Decision.acquired_requests (now : Timestamp) (status : Status) (d : Decision) :
    (d.requests now status).filterMap CombatCall.acquired? = d.engaged?.toList := by
  cases d <;> rfl

/-- A ruling leads to the target that it engages, and to no other. -/
theorem Ruling.Lawful.acquired_eq {r : Ruling} {s : Exclusions} (h : r.Lawful s) :
    r.calls.filterMap CombatCall.acquired? = (r.decision.bind Decision.engaged?).toList := by
  obtain ⟨status, vain, hcalls, hvain⟩ := h.calls
  have hnone : vain.filterMap CombatCall.acquired? = [] :=
    List.filterMap_eq_nil_iff.mpr fun call hmem => CombatCall.acquired?_of_isVain (hvain call hmem)
  rw [hcalls, List.filterMap_append, hnone, List.nil_append]
  cases r.decision with
  | none => rfl
  | some d => exact d.acquired_requests r.now status

theorem Reply.decision?_tick (answer : Except TaskError TickResult) :
    answer.toOption.bind TickResult.decision? =
      (Reply.tick answer).evaluation?.bind Prod.snd := by
  rcases answer with cause | report
  · rfl
  · cases report <;> rfl

theorem Reply.engaged?_tick (answer : Except TaskError TickResult) :
    answer.toOption.bind TickResult.engaged? =
      ((Reply.tick answer).evaluation?.bind Prod.snd).bind Decision.engaged? := by
  rw [← Reply.decision?_tick, Option.bind_assoc]
  rfl

/-- A tick leads to the target whose engagement it reports, and to no other. -/
theorem Task.Coherent.acquired_tick {task : Task} (h : task.Coherent) (host : Host ε)
    (routine : CombatRoutine ε) (world : World) (env : ε) :
    let turn := task.tick host routine world env
    turn.combatCalls.filterMap CombatCall.acquired? =
      (turn.answer.toOption.bind TickResult.engaged?).toList := by
  intro turn
  rw [Reply.engaged?_tick]
  rcases h.ruling?_cases (.tick host routine world env) with
    ⟨hruling, hcalls, -⟩ | ⟨r, hruling, hlawful, hcalls, -⟩
  · replace hruling : (Reply.tick turn.answer).evaluation? = none :=
      Option.map_eq_none_iff.mp hruling
    replace hcalls : turn.combatCalls = [] := hcalls
    rw [hruling, hcalls]
    rfl
  · obtain ⟨⟨status, decision⟩, hevaluation, rfl⟩ := Option.map_eq_some_iff.mp hruling
    replace hevaluation : (Reply.tick turn.answer).evaluation? = some (status, decision) :=
      hevaluation
    rw [hevaluation]
    exact hlawful.acquired_eq

/-! ## The simulated routine and the reel -/

namespace Fighter

/-- What a call makes of the routine. -/
def after (f : Fighter) : CombatCall → Fighter
  | .target guid true => { f with target := some guid }
  | .target _ false => f
  | .exclude guid _ => f.exclude guid
  | .flush => f.flush
  | .perform _ _ => f

theorem target_after (f : Fighter) (call : CombatCall) :
    (f.after call).target = call.acquired?.or f.target := by
  cases call with
  | target guid accepted => cases accepted <;> rfl
  | exclude | flush | perform => rfl

/-- The routine turns to the last target that it has been led to. -/
theorem target_foldl_after (f : Fighter) (calls : List CombatCall) :
    (calls.foldl after f).target =
      (calls.filterMap CombatCall.acquired?).getLast?.or f.target := by
  induction calls using List.reverseRecOn with
  | nil => rfl
  | append_singleton calls call ih =>
      rw [List.foldl_concat, target_after, ih, List.filterMap_append, List.getLast?_append]
      cases hcall : call.acquired? <;> simp [hcall]

end Fighter

namespace Stage

theorem routine_follows_fighter : routine.Follows fighter Fighter.after where
  target guid stage := by
    simp only [routine, Fighter.aim]
    split <;> rfl
  exclude _ _ _ := rfl
  flush _ := rfl
  perform _ _ := rfl

theorem routine_follows_reel : routine.Follows reel fun reel _ => reel where
  target _ _ := rfl
  exclude _ _ _ := rfl
  flush _ := rfl
  perform _ _ := rfl

variable (task : Task) (world : World) (stage : Stage)

theorem fighter_tick :
    let turn := task.tick host routine world stage
    turn.env.fighter = turn.combatCalls.foldl Fighter.after stage.fighter :=
  task.view_tick routine_follows_fighter (fun _ _ => rfl) world stage

theorem reel_tick : (task.tick host routine world stage).env.reel = stage.reel :=
  (task.view_tick routine_follows_reel (fun _ _ => rfl) world stage).trans (List.foldl_fixed _)

theorem env_stop : (task.stop host stage).env = stage := by
  have htell : ∀ (call : HostCall) (stage : Stage), id (host.tell call stage) = id stage :=
    fun _ _ => rfl
  exact task.view_stop htell stage

end Stage

theorem Reel.mem_of_mem_advance {reel : Reel} {frame : World}
    (h : frame ∈ reel.advance.last :: reel.advance.pending) :
    frame ∈ reel.last :: reel.pending := by
  rcases hpending : reel.pending with _ | ⟨first, rest⟩
  · simpa [advance, hpending] using h
  · exact List.mem_cons_of_mem _ (by simpa [advance, hpending] using h)

/-! ## Drives -/

namespace Drive

/-- The creatures that the reports so far engage, in order. -/
def engagements (d : Drive ε) : List Guid :=
  d.reports.filterMap fun (_, report) => report.engaged?

def combatCalls (d : Drive ε) : List CombatCall :=
  d.calls.filterMap Call.combat?

theorem engagements_advance {d : Drive ε} (h : d.task.Coherent) (around : Surroundings ε) :
    (d.advance around).engagements = d.engagements ++
      (d.task.tick around.host around.routine (around.snapshot d.env).1
        (around.snapshot d.env).2).combatCalls.filterMap CombatCall.acquired? := by
  rw [h.acquired_tick, engagements, advance]
  simp only
  split
  next heq => simp [heq, Except.toOption, engagements]
  next report heq =>
    rw [List.filterMap_append]
    cases hengaged : report.engaged? <;> simp [heq, Except.toOption, hengaged, engagements]

theorem combatCalls_halt (d : Drive ε) (around : Surroundings ε) :
    (d.halt around).combatCalls = d.combatCalls := by
  have hnone : (d.task.stop around.host d.env).calls.filterMap Call.combat? = [] :=
    d.task.combatCalls_stop around.host d.env
  rw [combatCalls, halt, List.filterMap_append, hnone, List.append_nil]
  rfl

theorem combatCalls_advance (d : Drive ε) (around : Surroundings ε) :
    (d.advance around).combatCalls = d.combatCalls ++
      (d.task.tick around.host around.routine (around.snapshot d.env).1
        (around.snapshot d.env).2).combatCalls := by
  rw [combatCalls, advance_calls, List.filterMap_append]
  rfl

/-- The routine has the target that was engaged last, and each engagement was of another creature
than the one before. -/
structure Alternating (d : Drive Stage) : Prop where
  coherent : d.task.Coherent
  distinct : ∀ frame ∈ d.env.reel.last :: d.env.reel.pending,
    (frame.creatures.map Creature.guid).Nodup
  target_eq : d.env.fighter.target = d.engagements.getLast?
  isChain : d.engagements.IsChain (· ≠ ·)

namespace Alternating

variable {d : Drive Stage}

/-- No tick asks for the target that the routine has. -/
theorem target_ne (h : d.Alternating) {guid : Guid} {accepted : Bool}
    (hmem : .target guid accepted ∈ (d.task.tick Stage.host Stage.routine
      (Stage.surroundings.snapshot d.env).1 (Stage.surroundings.snapshot d.env).2).combatCalls) :
    d.env.fighter.target ≠ some guid := by
  intro htarget
  have hshown : (Stage.surroundings.snapshot d.env).1.target = some guid := by
    simp [Stage.surroundings, Reel.snapshot, World.retarget, htarget]
  have hdistinct : ((Stage.surroundings.snapshot d.env).1.creatures.map Creature.guid).Nodup :=
    h.distinct d.env.reel.advance.last (Reel.mem_of_mem_advance List.mem_cons_self)
  obtain ⟨config, env, -, hverdict⟩ := h.coherent.mem_verdict_of_mem_combatCalls hmem
  exact FlatPolicy.target_ne_of_target_mem_verdict hdistinct hverdict hshown

theorem target_ne_of_next (h : d.Alternating) {calls : List CombatCall}
    (hcalls : (d.next Stage.surroundings).combatCalls = d.combatCalls ++ calls) {guid : Guid}
    {accepted : Bool} (hmem : .target guid accepted ∈ calls) :
    d.env.fighter.target ≠ some guid := by
  have hnone : d.combatCalls = d.combatCalls ++ calls → calls = [] := List.self_eq_append_right.mp
  rcases next_cases Stage.surroundings d with ⟨-, hnext⟩ | ⟨-, -, hnext⟩ | ⟨-, -, hnext⟩
  · rw [hnext] at hcalls
    simp [hnone hcalls] at hmem
  · rw [hnext, combatCalls_halt] at hcalls
    simp [hnone hcalls] at hmem
  · rw [hnext, combatCalls_advance, List.append_cancel_left_eq] at hcalls
    rw [← hcalls] at hmem
    exact h.target_ne hmem

theorem advance (h : d.Alternating) : (d.advance Stage.surroundings).Alternating := by
  have hreel : (d.advance Stage.surroundings).env.reel = d.env.reel.advance := by
    rw [advance_env]
    exact Stage.reel_tick _ _ _
  have hfighter := Stage.fighter_tick d.task (Stage.surroundings.snapshot d.env).1
    (Stage.surroundings.snapshot d.env).2
  have hengagements := engagements_advance h.coherent Stage.surroundings
  constructor
  · rw [advance_task]
    exact h.coherent.serve (.tick _ _ _ _)
  · rw [hreel]
    exact fun frame hmem => h.distinct frame (Reel.mem_of_mem_advance hmem)
  · rw [hengagements, List.getLast?_append, ← h.target_eq, advance_env]
    exact (congrArg Fighter.target hfighter).trans (Fighter.target_foldl_after _ _)
  · rw [hengagements, List.isChain_append]
    refine ⟨h.isChain, ?_, ?_⟩
    · rw [h.coherent.acquired_tick]
      generalize Option.bind _ TickResult.engaged? = engaged
      cases engaged <;> simp
    · -- To engage the creature engaged last, the tick would ask for the target in hand.
      rintro last hlast _ hfirst rfl
      obtain ⟨call, hcall, hacquired⟩ := List.mem_filterMap.mp (List.mem_of_head? hfirst)
      rw [CombatCall.acquired?_eq_some_iff.mp hacquired] at hcall
      exact h.target_ne hcall (h.target_eq.trans hlast)

theorem halt (h : d.Alternating) : (d.halt Stage.surroundings).Alternating := by
  have henv : (d.halt Stage.surroundings).env = d.env := Stage.env_stop d.task d.env
  constructor
  · exact h.coherent.serve (.stop Stage.host d.env)
  · rw [henv]
    exact h.distinct
  · rw [henv]
    exact h.target_eq
  · exact h.isChain

theorem next (h : d.Alternating) : (d.next Stage.surroundings).Alternating := by
  rcases next_cases Stage.surroundings d with ⟨-, hnext⟩ | ⟨-, -, hnext⟩ | ⟨-, -, hnext⟩
  · rw [hnext]
    exact h
  · rw [hnext]
    exact h.halt
  · rw [hnext]
    exact h.advance

end Alternating

end Drive

/-- Of any two engagements with no other between them, the second is of another creature. -/
def Replay.EngagesOnChange (replay : Replay) : Prop :=
  ∀ before first between second after guid guid',
    replay.ticks = before ++ first :: (between ++ second :: after) →
      first.report.engaged? = some guid → second.report.engaged? = some guid' →
        (∀ tick ∈ between, tick.report.engaged? = none) → guid ≠ guid'

theorem Drive.Alternating.engagesOnChange {d : Drive Stage} (h : d.Alternating) :
    (Replay.ofDrive d).EngagesOnChange := by
  intro before first between second after guid guid' hticks hfirst hsecond hbetween
  have hchain : ((Replay.ofDrive d).ticks.filterMap (·.report.engaged?)).IsChain (· ≠ ·) := by
    rw [Replay.ofDrive, ReplayTick.filterMap_number fun (_, report) => report.engaged?]
    exact h.isChain
  have hnone : between.filterMap (·.report.engaged?) = [] :=
    List.filterMap_eq_nil_iff.mpr hbetween
  have hengaged : (Replay.ofDrive d).ticks.filterMap (·.report.engaged?) =
      before.filterMap (·.report.engaged?) ++
        guid :: guid' :: after.filterMap (·.report.engaged?) := by
    simp [hticks, hfirst, hsecond, hnone]
  rw [hengaged, List.isChain_append_cons_cons] at hchain
  exact hchain.2.1

namespace Script

variable {script : Script} {config : Config}

theorem alternating_opening
    (hdistinct : ∀ frame ∈ script.frames, (frame.creatures.map Creature.guid).Nodup) :
    script.opening.Alternating where
  coherent := Task.coherent_fresh (Config.ofAttributes script.attributes)
  distinct frame hmem := by
    rcases List.mem_cons.mp hmem with rfl | hmem
    · exact List.nodup_nil
    · exact hdistinct frame hmem
  target_eq := rfl
  isChain := .nil

/-- Where the identities in each frame are distinct, a replay of accepted attributes never engages
the creature that it has engaged last, whatever comes between, and no round of it asks for the
target that the routine has.  It comes to the same end at every pace. -/
theorem replay_engages_on_change (hattributes : Config.ofAttributes script.attributes = .ok config)
    (hdistinct : ∀ frame ∈ script.frames, (frame.creatures.map Creature.guid).Nodup) :
    ∃ replay, script.replay = .ok replay ∧ replay.EngagesOnChange ∧
      (∀ (held : Stage → Bool) (beats : ℕ → Poll PUnit), Unceasing beats →
        ∃ n, ∀ m, n ≤ m →
          script.opening.polled Stage.surroundings held beats m = script.play) ∧
      ∀ rounds calls guid accepted,
        let d := script.opening.run Stage.surroundings rounds
        (d.next Stage.surroundings).combatCalls = d.combatCalls ++ calls →
          .target guid accepted ∈ calls → d.env.fighter.target ≠ some guid := by
  have halternating : ∀ rounds, (script.opening.run Stage.surroundings rounds).Alternating :=
    Drive.run_induction (fun _ h => h.next) (alternating_opening hdistinct)
  have hended := play_finished hattributes
  refine ⟨Replay.ofDrive script.play, ?_, (halternating script.rounds).engagesOnChange, ?_, ?_⟩
  · simp only [replay, hended]
  · intro held beats hbeats
    exact exists_forall_polled_eq_play (by simp [hended]) held hbeats
  · intro rounds calls guid accepted d hcalls hmem
    exact (halternating rounds).target_ne_of_next hcalls hmem

/-- The boss, engaged before and after another creature, is not engaged again while it is the
target.  A creature on both lists is refused once it is excluded, and one of the blacklist is
excluded and forgiven before the boss has its second turn. -/
theorem replay_engages_on_change_boss_twice :
    let boss : Creature := { guid := ⟨1⟩, kind := ⟨100⟩, distance := ⟨0⟩ }
    let shielded : Creature := { boss with auras := [⟨9⟩] }
    let prey : Creature := { guid := ⟨2⟩, kind := ⟨200⟩, distance := ⟨0⟩ }
    let both : Creature := { guid := ⟨3⟩, kind := ⟨300⟩, distance := ⟨0⟩ }
    let pest : Creature := { guid := ⟨4⟩, kind := ⟨400⟩, distance := ⟨0⟩ }
    let script : Script :=
      { attributes := Attributes.ofList
          [("BossId", "100"), ("AuraId", "9"), ("KillOrder1", "200"), ("KillOrder2", "300"),
            ("BlacklistMob1", "300"), ("BlacklistMob2", "400")]
        frames :=
          [{ creatures := [shielded, both] }, { creatures := [shielded, both] },
            { creatures := [boss] }, { target := some ⟨9⟩, creatures := [boss] },
            { creatures := [shielded, prey] }, { creatures := [prey, shielded] },
            { creatures := [shielded, pest] }, { creatures := [shielded, pest] },
            { creatures := [boss] }] }
    let config : Config :=
      { boss := ⟨100⟩, aura := ⟨9⟩, blacklist := [⟨300⟩, ⟨400⟩], killOrder := [⟨200⟩, ⟨300⟩] }
    let beats : ℕ → Poll PUnit := fun n => if n % 2 = 0 then .ready ⟨⟩ else .pending
    let fifth := script.opening.run Stage.surroundings 4
    Config.ofAttributes script.attributes = .ok config ∧
      (∀ frame ∈ script.frames, (frame.creatures.map Creature.guid).Nodup) ∧ Unceasing beats ∧
      (fifth.next Stage.surroundings).combatCalls = fifth.combatCalls ++ [.target ⟨2⟩ true] ∧
      ∃ replay, script.replay = .ok replay ∧ replay.EngagesOnChange ∧
        replay.ticks.map (·.report.decision?) =
          [some (.exclude ⟨3⟩), some (.routine .combat), some (.engageBoss ⟨1⟩),
            some (.routine .combat), some (.engagePriority ⟨2⟩), some (.routine .combat),
            some (.exclude ⟨4⟩), some .flushExclusions, some (.engageBoss ⟨1⟩)] ∧
        (∃ n, ∀ m, n ≤ m →
          script.opening.polled Stage.surroundings (fun _ => true) beats m = script.play) ∧
        fifth.env.fighter.target ≠ some ⟨2⟩ := by
  intro boss shielded prey both pest script config beats fifth
  have hslots : Config.readSlots script.attributes = .ok
      { blacklist := [⟨1, "BlacklistMob1", ⟨300⟩⟩, ⟨2, "BlacklistMob2", ⟨400⟩⟩]
        killOrder := [⟨1, "KillOrder1", ⟨200⟩⟩, ⟨2, "KillOrder2", ⟨300⟩⟩] } := by
    decide +kernel
  have hblacklist : Config.Slot.ranked
      [⟨1, "BlacklistMob1", ⟨300⟩⟩, ⟨2, "BlacklistMob2", ⟨400⟩⟩] = .ok [⟨300⟩, ⟨400⟩] :=
    Config.Slot.ranked_eq_ok (by decide) (List.Perm.refl _) (by decide)
  have hkillOrder : Config.Slot.ranked
      [⟨1, "KillOrder1", ⟨200⟩⟩, ⟨2, "KillOrder2", ⟨300⟩⟩] = .ok [⟨200⟩, ⟨300⟩] :=
    Config.Slot.ranked_eq_ok (by decide) (List.Perm.refl _) (by decide)
  have hattributes : Config.ofAttributes script.attributes = .ok config := by
    simp only [Config.ofAttributes, hslots, bind, Except.bind, hblacklist, hkillOrder]
    decide +kernel
  have hdistinct : ∀ frame ∈ script.frames, (frame.creatures.map Creature.guid).Nodup := by
    decide
  have hopening : script.opening =
      { task := Task.fresh (.ok config), env := { reel := { pending := script.frames } } } := by
    rw [opening, Task.ofAttributes, hattributes]
    rfl
  have hdecisions : (script.replay.toOption.map fun replay =>
      replay.ticks.map (·.report.decision?)) =
        some [some (.exclude ⟨3⟩), some (.routine .combat), some (.engageBoss ⟨1⟩),
          some (.routine .combat), some (.engagePriority ⟨2⟩), some (.routine .combat),
          some (.exclude ⟨4⟩), some .flushExclusions, some (.engageBoss ⟨1⟩)] := by
    rw [replay, play, hopening]
    decide +kernel
  have hasked : (fifth.next Stage.surroundings).combatCalls =
      fifth.combatCalls ++ [.target ⟨2⟩ true] := by
    simp only [fifth, hopening]
    decide +kernel
  have hbeats : Unceasing beats := by
    intro n
    exact ⟨2 * n, by omega, by simp [beats]⟩
  obtain ⟨replay, hreplay, hengages, hpolled, htarget⟩ :=
    replay_engages_on_change hattributes hdistinct
  rw [hreplay] at hdecisions
  exact ⟨hattributes, hdistinct, hbeats, hasked, replay, hreplay, hengages,
    by simpa [Except.toOption] using hdecisions, hpolled _ beats hbeats,
    htarget 4 _ ⟨2⟩ true hasked List.mem_cons_self⟩

end Script

end Encounter
