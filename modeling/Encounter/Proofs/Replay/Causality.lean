import Encounter.Proofs.Replay.Length
import Mathlib.Data.List.Infix

/-!
# No looking ahead

The reel knows from the last frame on that it is the last, and the routine carries its target and
its exclusions from frame to frame.  Still, what a replay reports on its frames is the same whatever
frames follow them, and once it has completed the frames that follow change nothing at all.
-/

namespace Encounter

namespace Drive

theorem reports_prefix_advance {ε : Type} (d : Drive ε) (around : Surroundings ε) :
    d.reports <+: (d.advance around).reports := by
  unfold advance
  simp only
  split
  next => exact List.prefix_rfl
  next => exact List.prefix_append _ _

theorem reports_prefix_next {ε : Type} (d : Drive ε) (around : Surroundings ε) :
    d.reports <+: (d.next around).reports := by
  rcases d.next_cases around with ⟨-, hnext⟩ | ⟨-, -, hnext⟩ | ⟨-, -, hnext⟩
  · rw [hnext]
  · rw [hnext]
    exact List.prefix_rfl
  · rw [hnext]
    exact d.reports_prefix_advance around

theorem reports_prefix_along (d : Drive Fighter) (frames : List World) :
    d.reports <+: (d.along frames).reports :=
  along_induction (P := fun d' => d.reports <+: d'.reports)
    (fun d' frame h => h.trans (d'.reports_prefix_next (Fighter.facing frame)))
    List.prefix_rfl frames

end Drive

namespace Script

theorem course_append (attributes : Attributes) (frames more : List World) :
    ({ attributes, frames := frames ++ more } : Script).course =
      ({ attributes, frames } : Script).course.along more :=
  Drive.along_append _ frames more

/-- The ticks of a replay are the first of those of every replay with the same attributes that
starts with the same frames, and a replay that completes is no other than those. -/
theorem replay_prefix_of_append {attributes : Attributes} {config : Config}
    (hattributes : Config.ofAttributes attributes = .ok config) {frames : List World}
    (hframes : frames ≠ []) (more : List World) :
    ∃ replay replay', ({ attributes, frames } : Script).replay = .ok replay ∧
      ({ attributes, frames := frames ++ more } : Script).replay = .ok replay' ∧
      replay.ticks <+: replay'.ticks ∧ (replay.completed = true → replay' = replay) := by
  let part : Script := { attributes, frames }
  let whole : Script := { attributes, frames := frames ++ more }
  have hpart : Config.ofAttributes part.attributes = .ok config := hattributes
  have hwhole : Config.ofAttributes whole.attributes = .ok config := hattributes
  obtain ⟨-, hreplay⟩ := replay_eq hpart hframes
  obtain ⟨-, hreplay'⟩ := replay_eq hwhole (List.append_ne_nil_of_left_ne_nil hframes more)
  have hcourse : whole.course = part.course.along more := course_append attributes frames more
  rw [hcourse] at hreplay'
  refine ⟨_, _, hreplay, hreplay', ?_, ?_⟩
  · obtain ⟨later, hlater⟩ := part.course.reports_prefix_along more
    rw [← hlater, ReplayTick.number_append]
    exact List.prefix_append _ _
  · intro hdone
    rcases course_cases hpart with hcompleted | hgoing
    · rw [Drive.along_of_ended (by simp [hcompleted.ending])]
    · exact absurd hdone (by simp [hgoing.attentive.isDone_eq])

/-- The boss is shielded, then dead, and is alive again in a frame that follows. -/
theorem replay_prefix_of_append_boss_back :
    let boss : Creature := { guid := ⟨1⟩, kind := ⟨100⟩, distance := ⟨0⟩, auras := [⟨9⟩] }
    let attributes := Attributes.ofList [("BossId", "100"), ("AuraId", "9"), ("KillOrder1", "200")]
    let frames : List World :=
      [{ creatures := [boss, { guid := ⟨2⟩, kind := ⟨200⟩, distance := ⟨0⟩ }] },
        { creatures := [{ boss with alive := false }] }]
    let more : List World := [{ creatures := [boss] }]
    let config : Config := { boss := ⟨100⟩, aura := ⟨9⟩, killOrder := [⟨200⟩] }
    Config.ofAttributes attributes = .ok config ∧ frames ≠ [] ∧
      ∃ replay replay', ({ attributes, frames } : Script).replay = .ok replay ∧
        ({ attributes, frames := frames ++ more } : Script).replay = .ok replay' ∧
        replay.ticks <+: replay'.ticks ∧ replay.completed = true ∧ replay' = replay := by
  intro boss attributes frames more config
  have hattributes : Config.ofAttributes attributes = .ok config := by decide +kernel
  have hframes : frames ≠ [] := List.cons_ne_nil _ _
  have hcompleted : (({ attributes, frames } : Script).replay.toOption.map
      Replay.completed) = some true := by decide +kernel
  obtain ⟨replay, replay', hreplay, hreplay', hprefix, hsame⟩ :=
    replay_prefix_of_append hattributes hframes more
  rw [hreplay] at hcompleted
  have hdone : replay.completed = true := by simpa [Except.toOption] using hcompleted
  exact ⟨hattributes, hframes, replay, replay', hreplay, hreplay', hprefix, hdone, hsame hdone⟩

end Script

end Encounter
