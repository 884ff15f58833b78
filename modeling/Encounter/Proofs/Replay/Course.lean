import Encounter.Proofs.Drive.Ending
import Encounter.Proofs.Task.Transport
import Encounter.Replay.Basic

/-!
# The course of a replay

The reel stands between a replay and its frames: it hands them out one by one and requests a stop
along with the last.  No tick sees the reel, only the frame and the simulated routine, so a replay
is the course that a task takes along the frames themselves, one round for each, and what is left to
be wound up at the end.
-/

namespace Encounter

namespace Fighter

def host : Host Fighter where
  isIdle _ := true
  isComposable _ := true
  tell _ fighter := fighter

def routine : CombatRoutine Fighter where
  target := aim
  exclude guid _ := exclude guid
  flush := flush
  perform part fighter := (outcome part, fighter)

/-- Surroundings that show one frame, with the target of the routine in it if it has one. -/
def facing (frame : World) : Surroundings Fighter where
  host := host
  routine := routine
  snapshot fighter := (frame.retarget fighter.target, fighter)
  stopRequested _ := false

theorem isReady_host (fighter : Fighter) : host.isReady fighter = true := rfl

theorem outcome_ne_running (part : RoutinePart) : outcome part ≠ .running := by
  cases part <;> simp [outcome]

theorem hom_stage_host (reel : Reel) : host.Hom Stage.host fun fighter => { reel, fighter } where
  map_isIdle _ := rfl
  map_isComposable _ := rfl
  map_tell _ _ := rfl

theorem hom_stage_routine (reel : Reel) :
    routine.Hom Stage.routine fun fighter => { reel, fighter } where
  map_target _ _ := rfl
  map_exclude _ _ _ := rfl
  map_flush _ := rfl
  map_perform _ _ := rfl

end Fighter

namespace Drive

variable (d : Drive Fighter)

/-- The drive with a reel beside the routine. -/
def onStage (reel : Reel) : Drive Stage where
  task := d.task
  env := { reel, fighter := d.env }
  calls := d.calls
  reports := d.reports
  served := d.served
  ending := d.ending

/-- Goes along frames, one round for each, until the drive ends. -/
def along (frames : List World) : Drive Fighter :=
  frames.foldl (fun d frame => d.next (Fighter.facing frame)) d

/-- Stops the task if the drive has not ended. -/
def windUp : Drive Fighter :=
  if d.ending.isSome then d else d.halt (Fighter.facing World.empty)

theorem along_append (first second : List World) :
    d.along (first ++ second) = (d.along first).along second :=
  List.foldl_append

theorem along_of_ended {d : Drive Fighter} (hended : d.ending.isSome = true)
    (frames : List World) : d.along frames = d := by
  induction frames with
  | nil => rfl
  | cons frame rest ih =>
      have hnext : d.next (Fighter.facing frame) = d := by rw [next, if_pos hended]
      rw [along, List.foldl_cons, hnext]
      exact ih

theorem next_facing {d : Drive Fighter} (hending : d.ending = none) (frame : World) :
    d.next (Fighter.facing frame) = d.advance (Fighter.facing frame) := by
  simp [next, round, hending, Fighter.facing]

theorem reports_windUp : d.windUp.reports = d.reports := by
  unfold windUp
  split <;> rfl

theorem isDone_windUp : d.windUp.task.isDone = d.task.isDone := by
  unfold windUp
  split
  next => rfl
  next => simp [halt, Task.task_stop, Task.isDone]

theorem env_windUp : d.windUp.env = d.env := by
  have hstop : (d.task.stop Fighter.host d.env).env = d.env := by
    unfold Task.stop
    cases hphase : d.task.phase with
    | running => simp [Task.withdraw, hphase, Fighter.host]
    | notStarted | done => rfl
  unfold windUp
  split
  next => rfl
  next => exact hstop

/-- What every round before a frame keeps, the whole course keeps. -/
theorem along_induction {P : Drive Fighter → Prop}
    (hnext : ∀ d frame, P d → P (d.next (Fighter.facing frame))) {d : Drive Fighter} (hd : P d)
    (frames : List World) : P (d.along frames) := by
  induction frames generalizing d with
  | nil => exact hd
  | cons frame rest ih => exact ih (hnext d frame hd)

/-! ## The reel has no part in it -/

theorem advance_onStage (reel : Reel) :
    (d.onStage reel).advance Stage.surroundings =
      (d.advance (Fighter.facing reel.advance.last)).onStage reel.advance := by
  have htick := d.task.tick_map (Fighter.hom_stage_host reel.advance)
    (Fighter.hom_stage_routine reel.advance) (reel.advance.last.retarget d.env.target) d.env
  simp only [advance, onStage, Stage.surroundings, Fighter.facing, Reel.snapshot, htick]
  cases hanswer : (d.task.tick Fighter.host Fighter.routine
      (reel.advance.last.retarget d.env.target) d.env).answer with
  | error e => simp only [Turn.map, hanswer]
  | ok report =>
      simp only [Turn.map, hanswer]
      rfl

theorem halt_onStage (reel : Reel) (around : Surroundings Fighter)
    (haround : around.host = Fighter.host) :
    (d.onStage reel).halt Stage.surroundings = (d.halt around).onStage reel := by
  have hstop := d.task.stop_map (Fighter.hom_stage_host reel) d.env
  simp only [halt, onStage, Stage.surroundings, haround, hstop]
  rfl

theorem run_onStage_succ {d : Drive Fighter} (hending : d.ending = none) {reel : Reel}
    (hstop : reel.stopRequested = false) (rounds : ℕ) :
    (d.onStage reel).run Stage.surroundings (rounds + 1) =
      ((d.next (Fighter.facing reel.advance.last)).onStage reel.advance).run
        Stage.surroundings rounds := by
  rw [next_facing hending, run, round, d.advance_onStage reel]
  simp only [onStage, hending, Stage.surroundings, hstop]
  rfl

theorem run_onStage_cons {d : Drive Fighter} (hending : d.ending = none) (frame last : World)
    (rest : List World) (rounds : ℕ) :
    (d.onStage { pending := frame :: rest, last }).run Stage.surroundings (rounds + 1) =
      ((d.next (Fighter.facing frame)).onStage
        { pending := rest, last := frame, stopRequested := rest.isEmpty }).run
          Stage.surroundings rounds :=
  run_onStage_succ hending rfl rounds

theorem run_onStage_stopped {d : Drive Fighter} {reel : Reel} (hstop : reel.stopRequested = true)
    (rounds : ℕ) :
    (d.onStage reel).run Stage.surroundings (rounds + 1) = d.windUp.onStage reel := by
  unfold windUp
  split
  next hended => exact run_of_ended Stage.surroundings hended (rounds + 1)
  next hended =>
    have hnone : (d.onStage reel).ending.isSome = false := by simpa [onStage] using hended
    have hround : (d.onStage reel).round Stage.surroundings =
        (d.halt (Fighter.facing World.empty)).onStage reel := by
      rw [← d.halt_onStage reel _ rfl]
      exact if_pos hstop
    rw [run, hnone, hround]
    exact run_of_ended Stage.surroundings rfl rounds

/-- A drive with a reel goes along the frames that are pending, and is stopped after the last of
them unless it has ended by then. -/
theorem exists_run_onStage {d : Drive Fighter} (hending : d.ending = none) {frames : List World}
    (hframes : frames ≠ []) (last : World) {rounds : ℕ} (hrounds : frames.length < rounds) :
    ∃ reel, (d.onStage { pending := frames, last }).run Stage.surroundings rounds =
      (d.along frames).windUp.onStage reel := by
  induction frames generalizing d last rounds with
  | nil => exact absurd rfl hframes
  | cons frame rest ih =>
      rw [List.length_cons] at hrounds
      obtain ⟨rounds, rfl⟩ : ∃ n, rounds = n + 2 := ⟨rounds - 2, by omega⟩
      rw [run_onStage_cons hending]
      cases rest with
      | nil => exact ⟨_, run_onStage_stopped rfl rounds⟩
      | cons second others =>
          have halong : d.along (frame :: second :: others) =
              (d.next (Fighter.facing frame)).along (second :: others) := rfl
          rw [halong]
          by_cases hended : (d.next (Fighter.facing frame)).ending.isSome = true
          · rw [along_of_ended hended, windUp, if_pos hended]
            exact ⟨_, run_of_ended Stage.surroundings hended (rounds + 1)⟩
          · apply ih (by simpa using hended) (List.cons_ne_nil second others)
            omega

end Drive

theorem ReplayTick.getElem?_number (first : ℕ) (reports : List (Timestamp × TickResult)) (k : ℕ) :
    (number first reports)[k]? =
      reports[k]?.map fun (now, report) => { tick := first + k, now, report } := by
  induction reports generalizing first k with
  | nil => rfl
  | cons report rest ih =>
      cases k with
      | zero => rfl
      | succ k =>
          have hshift : first + 1 + k = first + (k + 1) := by omega
          rw [number, List.getElem?_cons_succ, List.getElem?_cons_succ, ih, hshift]

theorem ReplayTick.number_append (first : ℕ) (reports later : List (Timestamp × TickResult)) :
    number first (reports ++ later) =
      number first reports ++ number (first + reports.length) later := by
  induction reports generalizing first with
  | nil => rfl
  | cons report rest ih =>
      have hshift : first + 1 + rest.length = first + (rest.length + 1) := by omega
      rw [List.cons_append, number, ih, hshift]
      rfl

theorem ReplayTick.filterMap_number {β : Type} (f : Timestamp × TickResult → Option β) (first : ℕ)
    (reports : List (Timestamp × TickResult)) :
    (number first reports).filterMap (fun tick => f (tick.now, tick.report)) =
      reports.filterMap f := by
  induction reports generalizing first with
  | nil => rfl
  | cons report rest ih => rw [number, List.filterMap_cons, List.filterMap_cons, ih]

theorem ReplayTick.length_number (first : ℕ) (reports : List (Timestamp × TickResult)) :
    (number first reports).length = reports.length := by
  induction reports generalizing first with
  | nil => rfl
  | cons report rest ih => rw [number, List.length_cons, List.length_cons, ih]

namespace Script

def outset (script : Script) : Drive Fighter where
  task := Task.ofAttributes script.attributes
  env := {}

/-- The course along the frames of a script, before it is wound up. -/
def course (script : Script) : Drive Fighter :=
  script.outset.along script.frames

theorem exists_play_eq {script : Script} (hframes : script.frames ≠ []) :
    ∃ reel, script.play = script.course.windUp.onStage reel := by
  have hrounds : script.frames.length < script.rounds := by
    rw [rounds]
    omega
  exact Drive.exists_run_onStage (d := script.outset) rfl hframes World.empty hrounds

/-- A script without frames is played as if the empty world were its only frame. -/
theorem exists_play_eq_of_nil {script : Script} (hframes : script.frames = []) :
    ∃ reel, script.play = (script.outset.along [World.empty]).windUp.onStage reel := by
  have hopening : script.opening = script.outset.onStage { pending := [] } := by
    rw [← hframes]
    rfl
  have hrounds : script.rounds = 2 := by rw [rounds, hframes, List.length_nil]
  rw [play, hopening, hrounds, Drive.run_onStage_succ rfl rfl]
  exact ⟨_, Drive.run_onStage_stopped rfl 0⟩

/-- A replay whose course is not refused is that course, wound up. -/
theorem replay_of_course {script : Script} (hframes : script.frames ≠ [])
    (hending : script.course.windUp.ending = some .finished) :
    script.play.ending = some .finished ∧
      script.replay = .ok
        { phase := script.course.windUp.task.phase
          completed := script.course.task.isDone
          ticks := ReplayTick.number 1 script.course.reports
          excluded := script.course.env.excluded } := by
  obtain ⟨reel, hplay⟩ := exists_play_eq hframes
  have hending' : script.play.ending = some .finished := by
    rw [hplay]
    exact hending
  refine ⟨hending', ?_⟩
  rw [replay, hending', hplay, ← Drive.isDone_windUp, ← Drive.reports_windUp,
    ← Drive.env_windUp]
  rfl

end Script

end Encounter
