import Encounter.Proofs.Replay.Course
import Encounter.Proofs.Task.Attention

/-!
# How long a replay is

A replay reports on one frame after the other, up to the first in which the boss is dead or missing,
or else up to the last.  Where that is depends on the boss and on the creatures in the frames, not
on anything that the task decides before or on how the replay is paced.
-/

namespace Encounter

variable {ε : Type}

/-- There is no creature of the boss's kind, or the first of them is a corpse. -/
def World.isRidOf (boss : Kind) (w : World) : Bool :=
  (Query.firstOfKind w.creatures boss).all Creature.isDead

theorem World.isRidOf_iff {config : Config} {w : World} (target : Option Guid) :
    w.isRidOf config.boss = true ↔
      (FlatPolicy.boss config (w.retarget target)).filter Creature.alive = none := by
  have hboss : FlatPolicy.boss config (w.retarget target) =
      Query.firstOfKind w.creatures config.boss := rfl
  rw [hboss, isRidOf, Option.filter_eq_none_iff, Option.all_eq_true]
  simp [Creature.isDead]

/-- What is reported on a frame by a routine that is never under way. -/
structure World.Accounts (boss : Kind) (w : World) (status : Status) (decision : Option Decision) :
    Prop where
  not_running : status ≠ .running
  failure_iff : status = .failure ↔ decision = none
  complete_iff : decision = some .complete ↔ w.isRidOf boss = true

/-- What is reported along frames, up to the first that is rid of the boss. -/
inductive Recount (boss : Kind) : List World → List (Timestamp × TickResult) → Prop
  | exhausted : Recount boss [] []
  | last {frame : World} {rest : List World} {status : Status} {decision : Option Decision}
      (haccounts : frame.Accounts boss status decision) (hrid : frame.isRidOf boss = true) :
      Recount boss (frame :: rest) [(frame.now, .evaluated status decision)]
  | goingOn {frame : World} {rest : List World} {status : Status} {decision : Option Decision}
      {reports : List (Timestamp × TickResult)}
      (haccounts : frame.Accounts boss status decision) (hrid : frame.isRidOf boss = false)
      (hrest : Recount boss rest reports) :
      Recount boss (frame :: rest) ((frame.now, .evaluated status decision) :: reports)

namespace Recount

variable {boss : Kind} {frames : List World} {reports : List (Timestamp × TickResult)}

theorem length_eq (h : Recount boss frames reports) :
    reports.length = ((frames.findIdx? (·.isRidOf boss)).map (· + 1)).getD frames.length := by
  induction h with
  | exhausted => rfl
  | last _ hrid => simp [List.findIdx?_cons, hrid]
  | @goingOn frame rest _ _ reports _ hrid _ ih =>
      rw [List.length_cons, ih, List.findIdx?_cons, hrid]
      cases rest.findIdx? (·.isRidOf boss) <;> simp

theorem exists_of_getElem? (h : Recount boss frames reports) {k : ℕ}
    {report : Timestamp × TickResult} (hreport : reports[k]? = some report) :
    ∃ frame status decision, frames[k]? = some frame ∧
      report = (frame.now, .evaluated status decision) ∧ status ≠ .running ∧
      (status = .failure ↔ decision = none) ∧
      (decision = some .complete ↔ frames.findIdx? (·.isRidOf boss) = some k) := by
  induction h generalizing k with
  | exhausted => simp at hreport
  | @last frame rest status decision haccounts hrid =>
      obtain ⟨rfl, rfl⟩ : k = 0 ∧ (frame.now, TickResult.evaluated status decision) = report := by
        simpa [List.getElem?_singleton] using hreport
      refine ⟨frame, status, decision, rfl, rfl, haccounts.not_running, haccounts.failure_iff, ?_⟩
      rw [haccounts.complete_iff, List.findIdx?_cons, hrid]
      simp
  | @goingOn frame rest status decision reports haccounts hrid hrest ih =>
      cases k with
      | zero =>
          obtain rfl : (frame.now, TickResult.evaluated status decision) = report := by
            simpa using hreport
          refine ⟨frame, status, decision, rfl, rfl, haccounts.not_running,
            haccounts.failure_iff, ?_⟩
          rw [haccounts.complete_iff, List.findIdx?_cons, hrid]
          simp
      | succ k =>
          obtain ⟨frame', status', decision', hframe, rfl, hstatus, hfailure, hcomplete⟩ :=
            ih (by simpa using hreport)
          refine ⟨frame', status', decision', hframe, rfl, hstatus, hfailure, ?_⟩
          rw [hcomplete, List.findIdx?_cons, hrid]
          simp

end Recount

theorem Task.Evaluated.accounts {task : Task} {config : Config} {routine : CombatRoutine ε}
    {frame : World} {target : Option Guid} {env : ε} {opening : List HostCall}
    {turn : Turn ε Reply}
    (h : task.Evaluated config routine (frame.retarget target) env opening turn)
    (hdone : task.isDone = false)
    (hroutine : ∀ part env, (routine.perform part env).1 ≠ .running) :
    let answer := task.runPolicy config routine (frame.retarget target) env
    frame.Accounts config.boss answer.1 answer.2.decision := by
  intro answer
  constructor
  · exact Scene.tick_ne_running hroutine _ _ _
  · rcases task.runPolicy_effect config routine (frame.retarget target) env with
      ⟨hstatus, hdecision, -⟩ | ⟨d, hstatus, hdecision, -⟩
    · exact iff_of_true hstatus hdecision
    · exact iff_of_false hstatus (by simp [answer, hdecision])
  · rw [World.isRidOf_iff target, ← h.completes_iff hdone, Reply.completes, h.evaluation?_eq]
    simp [answer]

/-! ## One frame -/

namespace Drive

/-- The drive goes on, with a task that can still run the policy. -/
structure Going (config : Config) (d : Drive ε) : Prop where
  attentive : d.task.Attentive config
  ending : d.ending = none

/-- The drive has ended with a task that is complete. -/
structure Completed (d : Drive ε) : Prop where
  isDone : d.task.isDone = true
  phase : d.task.phase = .done
  ending : d.ending = some .finished

structure Faced (config : Config) (d : Drive Fighter) (frame : World) (d' : Drive Fighter) :
    Prop where
  reported : ∃ status decision, frame.Accounts config.boss status decision ∧
    d'.reports = d.reports ++ [(frame.now, .evaluated status decision)]
  completed : frame.isRidOf config.boss = true → d'.Completed
  going : frame.isRidOf config.boss = false → d'.Going config

theorem Going.faced {config : Config} {d : Drive Fighter} (h : d.Going config) (frame : World) :
    Faced config d frame (d.next (Fighter.facing frame)) := by
  obtain ⟨env, opening, hturn⟩ := h.attentive.exists_evaluated (Fighter.isReady_host d.env)
    Fighter.routine (frame.retarget d.env.target)
  have hisDone := h.attentive.isDone_evaluated_iff hturn
  rw [← World.isRidOf_iff] at hisDone
  rw [next_facing h.ending,
    advance_of_answer (Fighter.facing frame) (Reply.tick.inj hturn.answer)]
  constructor
  · exact ⟨_, _, hturn.accounts h.attentive.isDone_eq fun part _ =>
      Fighter.outcome_ne_running part, rfl⟩
  · intro hrid
    have hphase := hturn.phase
    rw [if_pos (hisDone.mpr hrid)] at hphase
    exact ⟨hisDone.mpr hrid, hphase, if_pos hphase⟩
  · intro hrid
    have hboss : (FlatPolicy.boss config (frame.retarget d.env.target)).filter Creature.alive ≠
        none := by
      rw [Ne, ← World.isRidOf_iff, hrid]
      simp
    have hattentive := h.attentive.after_evaluated hturn hboss
    exact ⟨hattentive, if_neg hattentive.not_done⟩

/-! ## All frames -/

variable {config : Config} {d : Drive Fighter}

theorem Going.exists_recount (h : d.Going config) (frames : List World) :
    ∃ reports, Recount config.boss frames reports ∧
      (d.along frames).reports = d.reports ++ reports ∧
      ((frames.findIdx? (·.isRidOf config.boss)).isSome = true → (d.along frames).Completed) ∧
      (frames.findIdx? (·.isRidOf config.boss) = none → (d.along frames).Going config) := by
  induction frames generalizing d with
  | nil => exact ⟨[], .exhausted, (List.append_nil _).symm, by simp, fun _ => h⟩
  | cons frame rest ih =>
      have hfaced := h.faced frame
      obtain ⟨status, decision, haccounts, hreports⟩ := hfaced.reported
      have halong : d.along (frame :: rest) = (d.next (Fighter.facing frame)).along rest := rfl
      rw [halong, List.findIdx?_cons]
      cases hrid : frame.isRidOf config.boss with
      | true =>
          have hcompleted := hfaced.completed hrid
          rw [along_of_ended (by simp [hcompleted.ending])]
          exact ⟨_, .last haccounts hrid, hreports, fun _ => hcompleted, by simp⟩
      | false =>
          obtain ⟨reports, hrecount, hrest, hcompleted, hgoing⟩ := ih (hfaced.going hrid)
          refine ⟨_, .goingOn haccounts hrid hrecount, ?_, ?_, ?_⟩
          · rw [hrest, hreports, List.append_assoc, List.singleton_append]
          · simpa using hcompleted
          · simpa using hgoing

theorem Completed.windUp_eq (h : d.Completed) : d.windUp = d := by
  rw [windUp, if_pos (by simp [h.ending])]

theorem Going.windUp_eq (h : d.Going config) :
    d.windUp = d.halt (Fighter.facing World.empty) := by
  rw [windUp, if_neg (by simp [h.ending])]

/-- A drive that is never refused is done once it is wound up. -/
theorem finished_windUp (h : d.Completed ∨ d.Going config) :
    d.windUp.ending = some .finished ∧ d.windUp.task.phase = .done := by
  rcases h with hcompleted | hgoing
  · rw [hcompleted.windUp_eq]
    exact ⟨hcompleted.ending, hcompleted.phase⟩
  · rw [hgoing.windUp_eq]
    exact ⟨rfl, by simp [halt, Task.task_stop]⟩

end Drive

/-- What a replay along frames comes to, with respect to one boss. -/
structure Replay.Covers (frames : List World) (boss : Kind) (replay : Replay) : Prop where
  phase : replay.phase = .done
  rid : ∀ i, frames.findIdx? (·.isRidOf boss) = some i →
    replay.ticks.length = i + 1 ∧ replay.completed = true
  never_rid : frames.findIdx? (·.isRidOf boss) = none →
    replay.ticks.length = frames.length ∧ replay.completed = false
  tick : ∀ k tick, replay.ticks[k]? = some tick → ∃ frame status decision,
    frames[k]? = some frame ∧
      tick = { tick := k + 1, now := frame.now, report := .evaluated status decision } ∧
      status ≠ .running ∧ (status = .failure ↔ decision = none) ∧
      (decision = some .complete ↔ frames.findIdx? (·.isRidOf boss) = some k)

theorem findIdx?_isRidOf_congr {frames frames' : List World} (boss : Kind)
    (hcreatures : frames'.map World.creatures = frames.map World.creatures) :
    frames'.findIdx? (·.isRidOf boss) = frames.findIdx? (·.isRidOf boss) := by
  have hmap : ∀ frames : List World, frames.findIdx? (·.isRidOf boss) =
      (frames.map World.creatures).findIdx? fun creatures =>
        (Query.firstOfKind creatures boss).all Creature.isDead := by
    intro frames
    rw [List.findIdx?_map]
    rfl
  rw [hmap, hmap, hcreatures]

theorem Replay.Covers.congr {frames frames' : List World} {boss : Kind} {replay replay' : Replay}
    (h : replay.Covers frames boss) (h' : replay'.Covers frames' boss)
    (hcreatures : frames'.map World.creatures = frames.map World.creatures) :
    replay'.ticks.length = replay.ticks.length ∧ replay'.completed = replay.completed := by
  have hfall := findIdx?_isRidOf_congr boss hcreatures
  cases hi : frames.findIdx? (·.isRidOf boss) with
  | none =>
      have hlength : frames'.length = frames.length := by
        simpa using congrArg List.length hcreatures
      obtain ⟨hticks, hcompleted⟩ := h.never_rid hi
      obtain ⟨hticks', hcompleted'⟩ := h'.never_rid (hfall.trans hi)
      exact ⟨by omega, hcompleted'.trans hcompleted.symm⟩
  | some i =>
      obtain ⟨hticks, hcompleted⟩ := h.rid i hi
      obtain ⟨hticks', hcompleted'⟩ := h'.rid i (hfall.trans hi)
      exact ⟨by omega, hcompleted'.trans hcompleted.symm⟩

namespace Script

variable {script : Script} {config : Config}

theorem outset_going (hattributes : Config.ofAttributes script.attributes = .ok config) :
    script.outset.Going config where
  attentive := by
    have htask : script.outset.task = Task.fresh (.ok config) := congrArg Task.fresh hattributes
    rw [htask]
    exact Task.attentive_fresh config
  ending := rfl

theorem course_cases (hattributes : Config.ofAttributes script.attributes = .ok config) :
    script.course.Completed ∨ script.course.Going config := by
  obtain ⟨-, -, -, hcompleted, hgoing⟩ := (outset_going hattributes).exists_recount script.frames
  cases hfall : script.frames.findIdx? (·.isRidOf config.boss) with
  | none => exact .inr (hgoing hfall)
  | some i => exact .inl (hcompleted (by simp [hfall]))

theorem replay_eq (hattributes : Config.ofAttributes script.attributes = .ok config)
    (hframes : script.frames ≠ []) :
    script.play.ending = some .finished ∧
      script.replay = .ok
        { phase := .done
          completed := script.course.task.isDone
          ticks := ReplayTick.number 1 script.course.reports
          excluded := script.course.env.excluded } := by
  obtain ⟨hended, hphase⟩ := Drive.finished_windUp (course_cases hattributes)
  obtain ⟨hending, hreplay⟩ := replay_of_course hframes hended
  rw [hphase] at hreplay
  exact ⟨hending, hreplay⟩

/-- A replay comes to its end at every pace. -/
theorem exists_forall_polled_eq_play (hended : script.play.ending.isSome = true)
    (held : Stage → Bool) {beats : ℕ → Poll PUnit} (hbeats : Unceasing beats) :
    ∃ n, ∀ m, n ≤ m → script.opening.polled Stage.surroundings held beats m = script.play :=
  Drive.exists_forall_polled_eq_run Stage.surroundings held hbeats script.opening hended

theorem play_finished (hattributes : Config.ofAttributes script.attributes = .ok config) :
    script.play.ending = some .finished := by
  by_cases hframes : script.frames = []
  · obtain ⟨reel, hplay⟩ := exists_play_eq_of_nil hframes
    let shown : Script := { script with frames := [World.empty] }
    have hcourse : shown.course.Completed ∨ shown.course.Going config := course_cases hattributes
    rw [hplay]
    exact (Drive.finished_windUp hcourse).1
  · exact (replay_eq hattributes hframes).1

theorem exists_replay_covers (hattributes : Config.ofAttributes script.attributes = .ok config)
    (hframes : script.frames ≠ []) :
    ∃ replay, script.replay = .ok replay ∧ replay.Covers script.frames config.boss := by
  obtain ⟨-, hreplay⟩ := replay_eq hattributes hframes
  obtain ⟨reports, hrecount, hreports, hcompleted, hgoing⟩ :=
    (outset_going hattributes).exists_recount script.frames
  replace hreports : script.course.reports = reports := hreports
  have hlength := hrecount.length_eq
  rw [hreports] at hreplay
  refine ⟨_, hreplay, rfl, ?_, ?_, ?_⟩
  · intro i hfall
    rw [hfall] at hlength hcompleted
    rw [ReplayTick.length_number]
    exact ⟨hlength, (hcompleted rfl).isDone⟩
  · intro hfall
    rw [hfall] at hlength
    rw [ReplayTick.length_number]
    exact ⟨hlength, (hgoing hfall).attentive.isDone_eq⟩
  · intro k tick htick
    rw [ReplayTick.getElem?_number, Option.map_eq_some_iff] at htick
    obtain ⟨report, hreport, rfl⟩ := htick
    obtain ⟨frame, status, decision, hframe, rfl, hrest⟩ := hrecount.exists_of_getElem? hreport
    exact ⟨frame, status, decision, hframe, by rw [Nat.add_comm], hrest⟩

/-- Whatever the pace, a replay of accepted attributes comes to an end with one report on each frame
up to the first that is rid of the boss, and that report alone is of completion; its length and its
completion are the same for all attributes with that boss and all frames with those creatures. -/
theorem replay_covers_frames (hattributes : Config.ofAttributes script.attributes = .ok config)
    (hframes : script.frames ≠ []) :
    ∃ replay, script.replay = .ok replay ∧ replay.Covers script.frames config.boss ∧
      (∀ (held : Stage → Bool) (beats : ℕ → Poll PUnit), Unceasing beats →
        ∃ n, ∀ m, n ≤ m →
          script.opening.polled Stage.surroundings held beats m = script.play) ∧
      ∀ (other : Script) (config' : Config), Config.ofAttributes other.attributes = .ok config' →
        config'.boss = config.boss →
        other.frames.map World.creatures = script.frames.map World.creatures →
        ∃ replay', other.replay = .ok replay' ∧
          replay'.ticks.length = replay.ticks.length ∧ replay'.completed = replay.completed := by
  obtain ⟨replay, hreplay, hcovers⟩ := exists_replay_covers hattributes hframes
  obtain ⟨hending, -⟩ := replay_eq hattributes hframes
  refine ⟨replay, hreplay, hcovers, ?_, ?_⟩
  · intro held beats hbeats
    exact exists_forall_polled_eq_play (by simp [hending]) held hbeats
  · intro other config' hattributes' hboss hcreatures
    have hframes' : other.frames ≠ [] := by
      intro hnil
      rw [hnil, List.map_nil] at hcreatures
      exact hframes (List.map_eq_nil_iff.mp hcreatures.symm)
    obtain ⟨replay', hreplay', hcovers'⟩ := exists_replay_covers hattributes' hframes'
    refine ⟨replay', hreplay', ?_⟩
    rw [hboss] at hcovers'
    exact hcovers.congr hcovers' hcreatures

/-- The boss falls in the second of three frames and is back in the third, which is not played. -/
theorem replay_covers_frames_boss_back :
    let boss : Creature := { guid := ⟨1⟩, kind := ⟨100⟩, distance := ⟨0⟩ }
    let add : Creature := { guid := ⟨3⟩, kind := ⟨300⟩, distance := ⟨0⟩ }
    let script : Script :=
      { attributes := Attributes.ofList [("BlacklistMob1", "300"), ("BossId", "100")]
        frames :=
          [{ now := ⟨5⟩, creatures := [boss, add] },
            { now := ⟨7⟩, creatures := [{ boss with alive := false }, add] },
            { now := ⟨9⟩, creatures := [boss, add] }] }
    let config : Config := { boss := ⟨100⟩, blacklist := [⟨300⟩] }
    let beats : ℕ → Poll PUnit := fun n => if n % 3 = 0 then .ready ⟨⟩ else .pending
    Config.ofAttributes script.attributes = .ok config ∧ script.frames ≠ [] ∧ Unceasing beats ∧
      ∃ replay, script.replay = .ok replay ∧ replay.Covers script.frames config.boss ∧
        replay.ticks.length = 2 ∧ replay.completed = true ∧
        ∃ n, ∀ m, n ≤ m →
          script.opening.polled Stage.surroundings (fun _ => true) beats m = script.play := by
  intro boss add script config beats
  have hattributes : Config.ofAttributes script.attributes = .ok config := by decide +kernel
  have hframes : script.frames ≠ [] := List.cons_ne_nil _ _
  have hbeats : Unceasing beats := by
    intro n
    exact ⟨3 * n, by omega, by simp [beats]⟩
  have hfall : script.frames.findIdx? (·.isRidOf config.boss) = some 1 := by decide
  obtain ⟨replay, hreplay, hcovers, hpolled, -⟩ := replay_covers_frames hattributes hframes
  obtain ⟨hlength, hcompleted⟩ := hcovers.rid 1 hfall
  exact ⟨hattributes, hframes, hbeats, replay, hreplay, hcovers, hlength, hcompleted,
    hpolled _ beats hbeats⟩

end Script

end Encounter
