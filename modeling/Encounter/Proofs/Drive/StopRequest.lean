import Encounter.Proofs.Drive.Ending
import Encounter.Proofs.Task.Transport
import Mathlib.Data.List.Basic

/-!
# Stops that the source requests

Nobody but the source of the snapshots holds the handle by which a stop is requested, if anyone
does.  The channel then stands beside the environment of host and routine, which have no part in it,
and a record is kept of whether a stop stood requested when each snapshot had been taken.  No
snapshot is ever taken after one that left a stop requested, and a drive that is not refused has
reported on all that it has taken.
-/

namespace Encounter

variable {ε : Type}

/-- Takes snapshots, and tells with each whether it requests a stop while it takes it. -/
structure Source (ε : Type) where
  snapshot : ε → World × Bool × ε

/-- An environment with the stop channel beside it, and a record of whether a stop stood requested
when each snapshot so far had been taken. -/
structure Wired (ε : Type) where
  env : ε
  channel : StopChannel
  record : List Bool := []

def Host.wired (host : Host ε) : Host (Wired ε) where
  isIdle w := host.isIdle w.env
  isComposable w := host.isComposable w.env
  tell call w := { w with env := host.tell call w.env }

def CombatRoutine.wired (routine : CombatRoutine ε) : CombatRoutine (Wired ε) where
  target guid w := (routine.target guid w.env).map id fun env => { w with env }
  exclude guid expiry w := { w with env := routine.exclude guid expiry w.env }
  flush w := { w with env := routine.flush w.env }
  perform part w := (routine.perform part w.env).map id fun env => { w with env }

def Source.surroundings (source : Source ε) (host : Host ε) (routine : CombatRoutine ε) :
    Surroundings (Wired ε) where
  host := host.wired
  routine := routine.wired
  snapshot w :=
    let (world, stops, env) := source.snapshot w.env
    let channel := if stops then w.channel.request else w.channel
    (world, { env, channel, record := w.record ++ [channel.requested] })
  stopRequested w := w.channel.requested

section Wired

variable (host : Host ε) (routine : CombatRoutine ε) (source : Source ε)

theorem Host.hom_wired (channel : StopChannel) (record : List Bool) :
    host.Hom host.wired fun env => { env, channel, record } where
  map_isIdle _ := rfl
  map_isComposable _ := rfl
  map_tell _ _ := rfl

theorem CombatRoutine.hom_wired (channel : StopChannel) (record : List Bool) :
    routine.Hom routine.wired fun env => { env, channel, record } where
  map_target _ _ := rfl
  map_exclude _ _ _ := rfl
  map_flush _ := rfl
  map_perform _ _ := rfl

theorem Task.tick_wired (task : Task) (world : World) (w : Wired ε) :
    let turn := task.tick host.wired routine.wired world w
    turn.env.channel = w.channel ∧ turn.env.record = w.record := by
  have hturn := task.tick_map (host.hom_wired w.channel w.record)
    (routine.hom_wired w.channel w.record) world w.env
  simp only [hturn]
  exact ⟨rfl, rfl⟩

theorem Task.stop_wired (task : Task) (w : Wired ε) :
    let turn := task.stop host.wired w
    turn.env.channel = w.channel ∧ turn.env.record = w.record := by
  have hturn := task.stop_map (host.hom_wired w.channel w.record) w.env
  simp only [hturn]
  exact ⟨rfl, rfl⟩

end Wired

namespace Drive

/-- The record of a drive that has begun with a stop requested or not: one entry for each snapshot,
and no snapshot after one that left a stop requested. -/
structure Recorded (before : Bool) (d : Drive (Wired ε)) : Prop where
  length_eq : d.env.record.length = d.served
  early : ∀ requested ∈ (before :: d.env.record).dropLast, requested = false
  last : (before :: d.env.record).getLast? = some d.env.channel.requested

section Recorded

variable {before : Bool} {d : Drive (Wired ε)} {host : Host ε} {routine : CombatRoutine ε}
variable {source : Source ε}

theorem Recorded.halt (h : d.Recorded before) :
    (d.halt (source.surroundings host routine)).Recorded before := by
  obtain ⟨hchannel, hrecord⟩ := d.task.stop_wired host d.env
  have hchannel' : (d.halt (source.surroundings host routine)).env.channel = d.env.channel :=
    hchannel
  have hrecord' : (d.halt (source.surroundings host routine)).env.record = d.env.record := hrecord
  constructor
  · rw [hrecord']
    exact h.length_eq
  · rw [hrecord']
    exact h.early
  · rw [hrecord', hchannel']
    exact h.last

theorem Recorded.advance (h : d.Recorded before) (hchannel : d.env.channel.requested = false) :
    (d.advance (source.surroundings host routine)).Recorded before := by
  have hall : ∀ requested ∈ before :: d.env.record, requested = false := by
    intro requested hmem
    rw [← List.dropLast_append_getLast? _ (Option.mem_def.mpr h.last)] at hmem
    rcases List.mem_append.mp hmem with hmem | hmem
    · exact h.early requested hmem
    · rw [List.mem_singleton.mp hmem]
      exact hchannel
  obtain ⟨hchannel', hrecord'⟩ := d.task.tick_wired host routine
    ((source.surroundings host routine).snapshot d.env).1
    ((source.surroundings host routine).snapshot d.env).2
  have hrecord : (d.advance (source.surroundings host routine)).env.record =
      d.env.record ++ [(d.advance (source.surroundings host routine)).env.channel.requested] := by
    rw [advance_env]
    exact hrecord'.trans (congrArg (d.env.record ++ [·.requested]) hchannel'.symm)
  constructor
  · rw [hrecord, advance_served, List.length_append, h.length_eq, List.length_singleton]
  · rw [hrecord, ← List.cons_append, List.dropLast_concat]
    exact hall
  · rw [hrecord, ← List.cons_append, List.getLast?_concat]

theorem Recorded.next (h : d.Recorded before) :
    (d.next (source.surroundings host routine)).Recorded before := by
  rcases next_cases (source.surroundings host routine) d with
    ⟨-, hnext⟩ | ⟨-, -, hnext⟩ | ⟨-, hstop, hnext⟩
  · rw [hnext]
    exact h
  · rw [hnext]
    exact h.halt
  · rw [hnext]
    exact h.advance hstop

end Recorded

/-- What holds of a drive that has ended, when it has begun with `task` and with a stop requested
`before` or not. -/
structure EndsInOrder (task : Task) (before : Bool) (d : Drive (Wired ε)) : Prop where
  /-- No snapshot was taken after a stop had been requested. -/
  early : ∀ requested ∈ (before :: d.env.record).dropLast, requested = false
  recorded : d.env.record.length = d.served
  /-- Every snapshot was reported on, the one that came with the request included. -/
  finished : d.ending = some .finished →
    d.task.phase = .done ∧ d.reports.length = d.served
  visit : .attach ∈ d.hostCalls → d.hostCalls = [.attach, .detach, .clearStatusText]
  /-- A refusal comes on the first snapshot, for want of parameters, and nothing else is done. -/
  refused : ∀ error, d.ending = some (.refused error) →
    (∃ cause, task.config = .error cause ∧ error = .configuration cause) ∧
      d.served = 1 ∧ d.reports = [] ∧ d.calls = [] ∧ d.task = task

theorem Standing.endsInOrder {task : Task} {before : Bool} {d : Drive (Wired ε)}
    (h : d.Standing task) (hrecorded : d.Recorded before)
    (hpassage : Task.Passage task.phase d.hostCalls d.task.phase)
    (hended : d.ending.isSome = true) : d.EndsInOrder task before := by
  cases h with
  | waiting _ _ _ _ hnone => simp [hnone] at hended
  | underway _ _ _ hnone => simp [hnone] at hended
  | finished hphase hreports hending =>
      refine ⟨hrecorded.early, hrecorded.length_eq, fun _ => ⟨hphase, hreports⟩, ?_, ?_⟩
      · intro hattach
        rw [hphase] at hpassage
        generalize d.hostCalls = calls at hattach hpassage ⊢
        generalize task.phase = phase at hpassage
        cases hpassage with
        | visit => rfl
        | stay | leave | skip => simp at hattach
      · intro error hrefused
        simp [hending] at hrefused
  | refused cause hconfig htask hcalls hserved hreports hending =>
      refine ⟨hrecorded.early, hrecorded.length_eq, ?_, ?_, ?_⟩
      · intro hfinished
        simp [hending] at hfinished
      · intro hattach
        simp [hostCalls, hcalls] at hattach
      · intro error hrefused
        rw [hending] at hrefused
        obtain rfl : TaskError.configuration cause = error := by simpa using hrefused
        exact ⟨⟨cause, hconfig, rfl⟩, hserved, hreports, hcalls, htask⟩

/-- A drive that waits goes through its rounds, one after the other, and through no others; and when
it has ended, it has done so in order. -/
theorem polled_ends_as_rounds (host : Host ε) (routine : CombatRoutine ε) (source : Source ε)
    (task : Task) (env : ε) (channel : StopChannel) {beats : ℕ → Poll PUnit}
    (hbeats : Unceasing beats) :
    let around := source.surroundings host routine
    let start : Drive (Wired ε) := { task, env := { env, channel } }
    let drive := start.polled around (·.channel.held) beats
    (∀ n, ∃ rounds, drive n = start.run around rounds) ∧
      (∀ rounds, ∃ n, drive n = start.run around rounds) ∧
      ∀ n, (drive n).ending.isSome = true → (drive n).EndsInOrder task channel.requested := by
  intro around start drive
  refine ⟨exists_run_eq_polled around _ beats start,
    exists_polled_eq_run around _ hbeats start, fun n hended => ?_⟩
  obtain ⟨rounds, hrounds⟩ := exists_run_eq_polled around (·.channel.held) beats start n
  replace hrounds : drive n = start.run around rounds := hrounds
  rw [hrounds] at hended ⊢
  have hstanding : (start.run around rounds).Standing task :=
    run_induction (fun _ h => h.next around) (.waiting rfl rfl rfl rfl rfl) rounds
  have hrecorded : (start.run around rounds).Recorded channel.requested :=
    run_induction (fun _ h => h.next) ⟨rfl, by simp [start], rfl⟩ rounds
  have hpassage : Task.Passage task.phase (start.run around rounds).hostCalls
      (start.run around rounds).task.phase :=
    run_induction (P := fun d => Task.Passage task.phase d.hostCalls d.task.phase)
      (fun _ h => passage_next h around) (.stay _) rounds
  exact hstanding.endsInOrder hrecorded hpassage hended

/-- A boss that does not die is watched on every other poll, and the second snapshot comes with a
request to stop: the drive has ended by the fourth poll. -/
theorem polled_ends_as_rounds_second_snapshot :
    let host : Host ℕ :=
      { isIdle := fun _ => true, isComposable := fun _ => true, tell := fun _ env => env }
    let routine : CombatRoutine ℕ :=
      { target := fun _ env => (true, env)
        exclude := fun _ _ env => env
        flush := fun env => env
        perform := fun _ env => (.success, env) }
    let source : Source ℕ :=
      { snapshot := fun taken =>
          ({ now := ⟨UInt64.ofNat taken⟩
             creatures := [{ guid := ⟨1⟩, kind := ⟨100⟩, distance := ⟨0⟩ }] },
            taken == 1, taken + 1) }
    let task := Task.ofConfig { boss := ⟨100⟩ }
    let beats : ℕ → Poll PUnit := fun n => if n % 2 = 0 then .ready ⟨⟩ else .pending
    let channel : StopChannel := {}
    let start : Drive (Wired ℕ) := { task, env := { env := 0, channel } }
    let drive := start.polled (source.surroundings host routine) (·.channel.held) beats
    Unceasing beats ∧ (drive 4).ending = some .finished ∧ .attach ∈ (drive 4).hostCalls ∧
      (drive 4).served = 2 ∧ (drive 4).EndsInOrder task channel.requested := by
  intro host routine source task beats channel start drive
  have hbeats : Unceasing beats := by
    intro n
    exact ⟨2 * n, by omega, by simp [beats]⟩
  have hending : (drive 4).ending = some .finished := by decide +kernel
  have hattach : .attach ∈ (drive 4).hostCalls := by decide +kernel
  have hserved : (drive 4).served = 2 := by decide +kernel
  have hended : (drive 4).ending.isSome = true := by
    rw [hending]
    rfl
  obtain ⟨-, -, hends⟩ := polled_ends_as_rounds host routine source task 0 channel hbeats
  exact ⟨hbeats, hending, hattach, hserved, hends 4 hended⟩

end Drive

end Encounter
