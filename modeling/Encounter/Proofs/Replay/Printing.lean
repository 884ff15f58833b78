import Encounter.Proofs.Replay.Causality
import Encounter.Proofs.Replay.Rendering
import Encounter.Replay.CommandLine

/-!
# What is printed of a replay

The lines of a replay are printed one behind the other.  None of them is empty or has a break in it,
and there is at least one, so all that is printed tells the format and the ticks of the replay.
-/

namespace Encounter

/-! ## At least one tick -/

namespace Drive

variable {ε : Type}

/-- There has been a report, or the drive has been refused. -/
def Answered (d : Drive ε) : Prop :=
  d.reports ≠ [] ∨ ∃ e, d.ending = some (.refused e)

theorem answered_advance (d : Drive ε) (around : Surroundings ε) : (d.advance around).Answered := by
  unfold advance
  simp only
  split
  next e _ => exact .inr ⟨e, rfl⟩
  next => exact .inl (List.concat_ne_nil _ _)

theorem Answered.next {d : Drive ε} (h : d.Answered) (around : Surroundings ε) :
    (d.next around).Answered := by
  rcases h with hreports | ⟨e, hending⟩
  · exact .inl fun hnil => hreports (List.prefix_nil.mp (hnil ▸ d.reports_prefix_next around))
  · have hended : d.ending.isSome = true := by rw [hending]; rfl
    refine .inr ⟨e, ?_⟩
    rw [Drive.next, if_pos hended, hending]

end Drive

/-- No stop is requested before the first round, so that it is a tick. -/
theorem Script.answered_play (script : Script) : script.play.Answered := by
  have hfirst : script.play =
      (script.opening.advance Stage.surroundings).run Stage.surroundings
        (script.frames.length + 1) := rfl
  rw [hfirst]
  exact Drive.run_induction (P := Drive.Answered) (fun _ h => h.next Stage.surroundings)
    (script.opening.answered_advance Stage.surroundings) _

theorem Script.ticks_ne_nil {script : Script} {replay : Replay} (h : script.replay = .ok replay) :
    replay.ticks ≠ [] := by
  have hreports : script.play.reports ≠ [] := by
    rcases script.answered_play with hreports | ⟨e, hending⟩
    · exact hreports
    · rw [Script.replay, hending] at h
      cases h
  have hreplay : replay = Replay.ofDrive script.play := by
    unfold Script.replay at h
    split at h
    next => cases h
    next => exact (Except.ok.inj h).symm
    next => exact (Except.ok.inj h).symm
  intro hnil
  have hlength : replay.ticks.length = script.play.reports.length := by
    rw [hreplay]
    exact ReplayTick.length_number 1 script.play.reports
  rw [hnil] at hlength
  exact hreports (List.length_eq_zero_iff.mp hlength.symm)

namespace ReplayTick

/-- Lines in one format are those of one list of ticks, and in one format only if there are any. -/
theorem map_render_eq_iff {format format' : Format} {ticks ticks' : List ReplayTick} :
    ticks.map (·.render format) = ticks'.map (·.render format') ↔
      ticks = ticks' ∧ (ticks = [] ∨ format = format') := by
  constructor
  · intro h
    cases ticks with
    | nil => exact ⟨(List.map_eq_nil_iff.mp h.symm).symm, .inl rfl⟩
    | cons r rest =>
        cases ticks' with
        | nil => cases h
        | cons r' rest' =>
            obtain ⟨rfl, -⟩ := render_eq_iff.mp (List.cons.inj h).1
            have hinjective : Function.Injective fun r : ReplayTick => r.render format :=
              fun _ _ hline => (render_eq_iff.mp hline).2
            exact ⟨List.map_injective_iff.mpr hinjective h, .inr rfl⟩
  · rintro ⟨rfl, rfl | rfl⟩ <;> rfl

theorem newline_not_mem_render (r : ReplayTick) (format : Format) :
    '\n' ∉ (r.render format).toList := by
  intro hbreak
  exact (r.isPrintable_render format).disjoint_lineBreaks hbreak List.mem_cons_self

end ReplayTick

namespace CommandLine

/-- The ticks of the script in a file, given its bytes if it could be read, unless it is no script
or cannot be replayed. -/
def Options.ticks? (options : Options) (content : Option ByteArray) : Option (List ReplayTick) :=
  (Script.ofFile options.path content).toOption.bind fun script =>
    script.replay.toOption.map Replay.ticks

theorem Options.ticks?_ne_some_nil (options : Options) (content : Option ByteArray) :
    options.ticks? content ≠ some [] := by
  intro h
  obtain ⟨script, -, hticks⟩ := Option.bind_eq_some_iff.mp h
  obtain ⟨replay, hreplay, hnil⟩ := Option.map_eq_some_iff.mp hticks
  cases hscript : script.replay with
  | error e => simp [hscript, Except.toOption] at hreplay
  | ok replay' =>
      rw [hscript] at hreplay
      obtain rfl := Option.some.inj hreplay
      exact Script.ticks_ne_nil hscript hnil

theorem Options.getD_ticks?_inj {options options' : Options} {content content' : Option ByteArray} :
    (options.ticks? content).getD [] = (options'.ticks? content').getD [] ↔
      options.ticks? content = options'.ticks? content' := by
  have hsome := options.ticks?_ne_some_nil content
  have hsome' := options'.ticks?_ne_some_nil content'
  cases hticks : options.ticks? content <;> cases hticks' : options'.ticks? content' <;>
    simp_all

theorem Options.getD_ticks?_eq_nil_iff {options : Options} {content : Option ByteArray} :
    (options.ticks? content).getD [] = [] ↔ options.ticks? content = none := by
  have hsome := options.ticks?_ne_some_nil content
  cases hticks : options.ticks? content <;> simp_all

/-- Nothing but rendered ticks is printed, and nothing without a replay. -/
theorem Options.lines_run (options : Options) (content : Option ByteArray) :
    (options.run content).lines =
      ((options.ticks? content).getD []).map (·.render options.format) := by
  unfold Options.run Options.ticks?
  cases Script.ofFile options.path content with
  | error e => rfl
  | ok script =>
      cases hreplay : script.replay with
      | error e => simp [hreplay, Except.toOption]
      | ok replay => simp [hreplay, Except.toOption]

theorem Options.newline_not_mem_of_mem_lines (options : Options) (content : Option ByteArray) :
    ∀ line ∈ (options.run content).lines, '\n' ∉ line.toList := by
  rw [options.lines_run content]
  exact List.forall_mem_map.mpr fun r _ => r.newline_not_mem_render options.format

theorem Options.output_run_eq_iff {options options' : Options}
    {content content' : Option ByteArray} :
    (options.run content).output = (options'.run content').output ↔
      (options.run content).lines = (options'.run content').lines := by
  constructor
  · exact Text.eq_of_join_ended (options.newline_not_mem_of_mem_lines content)
      (options'.newline_not_mem_of_mem_lines content')
  · intro h
    rw [Outcome.output, Outcome.output, h]

/-- A line tells its format, and the number, the time and the report of its tick.  No line has a
break of any kind in it.  So all that is printed tells whether a script has been replayed, and if so
with which ticks and in which format. -/
theorem rendered_unambiguously :
    (∀ (format format' : Format) (r r' : ReplayTick),
      r.render format = r'.render format' ↔
        format = format' ∧ r.tick = r'.tick ∧ r.now = r'.now ∧ r.report = r'.report) ∧
    (∀ (format : Format) (r : ReplayTick), (r.render format).toList.Disjoint Text.lineBreaks) ∧
    ∀ (options options' : Options) (content content' : Option ByteArray),
      (options.run content).output = (options'.run content').output ↔
        options.ticks? content = options'.ticks? content' ∧
          (options.ticks? content = none ∨ options.format = options'.format) := by
  refine ⟨?_, ?_, ?_⟩
  · intro format format' r r'
    rw [ReplayTick.render_eq_iff, ReplayTick.mk.injEq]
  · intro format r
    exact (r.isPrintable_render format).disjoint_lineBreaks
  · intro options options' content content'
    rw [Options.output_run_eq_iff, options.lines_run, options'.lines_run,
      ReplayTick.map_render_eq_iff, Options.getD_ticks?_inj, Options.getD_ticks?_eq_nil_iff]

/-- The time is too wide for its column. -/
example :
    let attributes := "\x7b\"BossId\": \"100\"\x7d"
    let document := "(attributes: " ++ attributes ++ ", frames: [(now: 18446744073709551615)])"
    (({ path := "late.ron" } : Options).run (some document.toUTF8)).output =
      "#1   18446744073709551615ms  success  complete\n" := by
  decide +kernel

end CommandLine

end Encounter
