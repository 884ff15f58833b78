import Encounter.Proofs.Replay.Switching
import Encounter.Proofs.Task.Mirror

/-!
# What a replay leaves excluded

The simulated routine is told until when it has to leave a creature alone, and takes no note of it.
What it still leaves alone when a replay ends is every creature excluded since the last flush, while
the task holds to an exclusion only until it expires.  Both are told here by the last exclusion of
each creature among the decisions of the replay, so they agree exactly if none of these has lapsed.
-/

namespace Encounter

variable {ε : Type}

/-! ## The last exclusion of a creature -/

/-- `guid` was excluded at `since`, and since then neither excluded again nor forgiven. -/
def LastExcluded (decisions : List (Timestamp × Decision)) (guid : Guid) (since : Timestamp) :
    Prop :=
  ∃ before after, decisions = before ++ (since, .exclude guid) :: after ∧
    ∀ later ∈ after, later.2 ≠ .flushExclusions ∧ later.2 ≠ .exclude guid

section LastExcluded

variable {decisions : List (Timestamp × Decision)} {d : Timestamp × Decision} {guid : Guid}
variable {since since' : Timestamp}

theorem LastExcluded.mem (h : LastExcluded decisions guid since) :
    (since, .exclude guid) ∈ decisions := by
  obtain ⟨before, after, rfl, -⟩ := h
  simp

theorem not_lastExcluded_nil : ¬ LastExcluded [] guid since :=
  fun h => List.not_mem_nil h.mem

theorem lastExcluded_concat :
    LastExcluded (decisions ++ [d]) guid since ↔
      d = (since, .exclude guid) ∨
        (d.2 ≠ .flushExclusions ∧ d.2 ≠ .exclude guid) ∧ LastExcluded decisions guid since := by
  constructor
  · rintro ⟨before, after, hdecisions, hafter⟩
    rcases after.eq_nil_or_concat' with rfl | ⟨between, last, rfl⟩
    · exact .inl (List.singleton_inj.mp (List.append_inj' hdecisions rfl).2)
    · rw [← List.cons_append, ← List.append_assoc] at hdecisions
      obtain ⟨hinit, hlast⟩ := List.append_inj' hdecisions rfl
      obtain rfl := List.singleton_inj.mp hlast
      exact .inr ⟨hafter d (by simp), before, between, hinit, fun later hlater =>
        hafter later (by simp [hlater])⟩
  · rintro (rfl | ⟨hspares, before, after, rfl, hafter⟩)
    · exact ⟨decisions, [], rfl, by simp⟩
    · refine ⟨before, after ++ [d], by simp, fun later hlater => ?_⟩
      rcases List.mem_append.mp hlater with hlater | hlater
      · exact hafter later hlater
      · rw [List.mem_singleton.mp hlater]
        exact hspares

theorem LastExcluded.unique (h : LastExcluded decisions guid since)
    (h' : LastExcluded decisions guid since') : since = since' := by
  induction decisions using List.reverseRecOn with
  | nil => exact absurd h not_lastExcluded_nil
  | append_singleton decisions d ih =>
      rw [lastExcluded_concat] at h h'
      rcases h with rfl | ⟨⟨-, hspares⟩, h⟩
      · rcases h' with hsame | ⟨⟨-, hspares⟩, -⟩
        · exact congrArg Prod.fst hsame
        · exact absurd rfl hspares
      · rcases h' with rfl | ⟨-, h'⟩
        · exact absurd rfl hspares
        · exact ih h h'

end LastExcluded

namespace Ruling

variable {rulings : List Ruling} {r : Ruling} {s : Exclusions} {guid : Guid}

def decided? (r : Ruling) : Option (Timestamp × Decision) :=
  r.decision.map (r.now, ·)

/-- What a ruling makes of the routine's copy of the exclusions. -/
theorem Lawful.foldl_note (h : r.Lawful s) (copy : Guid → Option Timestamp) :
    r.calls.foldl CombatCall.note copy =
      match r.decision with
      | some (.exclude guid) =>
          Function.update copy guid (some (r.now.after Exclusions.lifetime))
      | some .flushExclusions => fun _ => none
      | _ => copy := by
  obtain ⟨status, vain, hcalls, hvain⟩ := h.calls
  rw [hcalls, List.foldl_append, CombatCall.foldl_note_of_forall fun call hmem =>
    CombatCall.changesExclusions_of_isVain (hvain call hmem)]
  cases r.decision with
  | none => rfl
  | some d => cases d <;> rfl

/-- The routine's copy holds the last exclusion of each creature. -/
theorem Leads.replay_eq_some_iff (h : Leads Exclusions.empty rulings s) :
    ∀ guid expiry, CombatCall.replay (rulings.flatMap calls) guid = some expiry ↔
      ∃ since, LastExcluded (rulings.filterMap decided?) guid since ∧
        since.after Exclusions.lifetime = expiry := by
  apply h.induction_concat (P := fun rulings _ => ∀ guid expiry,
    CombatCall.replay (rulings.flatMap calls) guid = some expiry ↔
      ∃ since, LastExcluded (rulings.filterMap decided?) guid since ∧
        since.after Exclusions.lifetime = expiry)
  · intro guid expiry
    simp [CombatCall.replay, not_lastExcluded_nil]
  · intro rulings s r ih hr guid expiry
    rw [replay_concat, hr.foldl_note, List.filterMap_append]
    cases hdecision : r.decision with
    | none => simpa [decided?, hdecision] using ih guid expiry
    | some d =>
        have hdecided : List.filterMap decided? [r] = [(r.now, d)] := by
          simp [decided?, hdecision]
        simp only [hdecided, lastExcluded_concat]
        cases d with
        | flushExclusions => simp
        | exclude other =>
            by_cases hguid : guid = other
            · subst hguid
              simp
            · simp [hguid, Ne.symm hguid, ih guid expiry]
        | complete | engagePriority | engageBoss | routine => simp [ih guid expiry]

end Ruling

/-! ## What the simulated routine leaves alone -/

namespace Fighter

theorem mem_insertAscending {guid other : Guid} {guids : List Guid} :
    other ∈ insertAscending guid guids ↔ other = guid ∨ other ∈ guids := by
  induction guids with
  | nil => simp [insertAscending]
  | cons first rest ih =>
      simp only [insertAscending]
      split
      next hfirst => simp [hfirst]
      next =>
        split
        · exact List.mem_cons
        · simp [ih, or_left_comm]

theorem pairwise_insertAscending (guid : Guid) {guids : List Guid}
    (h : guids.Pairwise (·.val < ·.val)) :
    (insertAscending guid guids).Pairwise (·.val < ·.val) := by
  induction guids with
  | nil => simp [insertAscending]
  | cons first rest ih =>
      obtain ⟨hfirst, hrest⟩ := List.pairwise_cons.mp h
      simp only [insertAscending]
      split
      next => exact h
      next hne =>
        split
        next hlt =>
          refine List.pairwise_cons.mpr ⟨fun other hother => ?_, h⟩
          rcases List.mem_cons.mp hother with rfl | hother
          · exact hlt
          · exact UInt64.lt_trans hlt (hfirst other hother)
        next hle =>
          have hgt : first.val < guid.val := by
            rcases UInt64.lt_or_lt_of_ne (fun heq => hne (congrArg Guid.mk heq)) with hlt | hgt
            · exact absurd hlt hle
            · exact hgt
          refine List.pairwise_cons.mpr ⟨fun other hother => ?_, ih hrest⟩
          rcases mem_insertAscending.mp hother with rfl | hother
          · exact hgt
          · exact hfirst other hother

/-- The routine leaves a creature alone from its exclusion to the next flush, whatever the expiry
that it is told. -/
theorem mem_excluded_foldl_after (calls : List CombatCall) (guid : Guid) :
    guid ∈ (calls.foldl after {}).excluded ↔ (CombatCall.replay calls guid).isSome = true := by
  induction calls using List.reverseRecOn with
  | nil => simp [CombatCall.replay]
  | append_singleton calls call ih =>
      rw [List.foldl_concat, CombatCall.replay_append, List.foldl_cons, List.foldl_nil]
      cases call with
      | target other accepted => cases accepted <;> exact ih
      | exclude other expiry =>
          by_cases hguid : guid = other
          · simp [after, exclude, CombatCall.note, mem_insertAscending, hguid]
          · simp [after, exclude, CombatCall.note, mem_insertAscending, hguid, ih]
      | flush => simp [after, flush, CombatCall.note]
      | perform => exact ih

theorem pairwise_excluded_foldl_after (calls : List CombatCall) :
    (calls.foldl after {}).excluded.Pairwise (·.val < ·.val) := by
  induction calls using List.reverseRecOn with
  | nil => exact .nil
  | append_singleton calls call ih =>
      rw [List.foldl_concat]
      cases call with
      | target other accepted => cases accepted <;> exact ih
      | exclude other expiry => exact pairwise_insertAscending other ih
      | flush => exact .nil
      | perform => exact ih

end Fighter

/-! ## Drives and replays -/

def Replay.decisions (replay : Replay) : List (Timestamp × Decision) :=
  replay.ticks.filterMap fun tick => tick.report.decision?.map (tick.now, ·)

namespace Drive

def decisions (d : Drive ε) : List (Timestamp × Decision) :=
  d.reports.filterMap fun (now, report) => report.decision?.map (now, ·)

theorem decisions_advance (d : Drive ε) (around : Surroundings ε) :
    let request := Request.tick around.host around.routine (around.snapshot d.env).1
      (around.snapshot d.env).2
    (d.advance around).decisions =
      d.decisions ++ ((request.ruling? d.task).bind Ruling.decided?).toList := by
  intro request
  have hruling : (request.ruling? d.task).bind Ruling.decided? =
      ((d.task.tick around.host around.routine (around.snapshot d.env).1
        (around.snapshot d.env).2).answer.toOption.bind TickResult.decision?).map
          ((around.snapshot d.env).1.now, ·) := by
    rw [Reply.decision?_tick]
    simp only [request, Request.ruling?, Request.serve, Turn.withAnswer]
    cases (Reply.tick (d.task.tick around.host around.routine (around.snapshot d.env).1
      (around.snapshot d.env).2).answer).evaluation? <;> rfl
  rw [hruling, decisions, advance]
  simp only
  split
  next heq => simp [heq, Except.toOption, decisions]
  next report heq =>
    rw [List.filterMap_append]
    cases hdecision : report.decision? <;> simp [heq, Except.toOption, hdecision, decisions]

/-- The rulings that have led a drive to where it is. -/
structure Chronicled (d : Drive Stage) (rulings : List Ruling) : Prop where
  coherent : d.task.Coherent
  leads : Ruling.Leads Exclusions.empty rulings d.task.exclusions
  decisions_eq : d.decisions = rulings.filterMap Ruling.decided?
  fighter_eq : d.env.fighter = (rulings.flatMap Ruling.calls).foldl Fighter.after {}

namespace Chronicled

variable {d : Drive Stage} {rulings : List Ruling}

theorem advance (h : d.Chronicled rulings) :
    ∃ rulings', (d.advance Stage.surroundings).Chronicled rulings' := by
  let request := Request.tick Stage.host Stage.routine (Stage.surroundings.snapshot d.env).1
    (Stage.surroundings.snapshot d.env).2
  have hcoherent : (d.advance Stage.surroundings).task.Coherent := by
    rw [advance_task]
    exact h.coherent.serve request
  have hdecisions : (d.advance Stage.surroundings).decisions =
      d.decisions ++ ((request.ruling? d.task).bind Ruling.decided?).toList :=
    d.decisions_advance Stage.surroundings
  have hfighter : (d.advance Stage.surroundings).env.fighter =
      (request.serve d.task).combatCalls.foldl Fighter.after d.env.fighter := by
    rw [advance_env]
    exact Stage.fighter_tick _ _ _
  have htask : (d.advance Stage.surroundings).task.exclusions =
      (request.serve d.task).task.exclusions := by
    rw [advance_task]
    rfl
  rcases h.coherent.ruling?_cases request with
    ⟨hruling, hcalls, hexclusions⟩ | ⟨r, hruling, hlawful, hcalls, hexclusions⟩
  · refine ⟨rulings, hcoherent, ?_, ?_, ?_⟩
    · rw [htask, hexclusions]
      exact h.leads
    · rw [hdecisions, hruling, h.decisions_eq]
      simp
    · rw [hfighter, hcalls, h.fighter_eq]
      rfl
  · refine ⟨rulings ++ [r], hcoherent, ?_, ?_, ?_⟩
    · rw [htask, hexclusions]
      exact h.leads.append (.cons hlawful (.nil _))
    · rw [hdecisions, hruling, h.decisions_eq, List.filterMap_append]
      cases hdecided : r.decided? <;> simp [hdecided]
    · rw [hfighter, hcalls, h.fighter_eq, List.flatMap_append, List.foldl_append]
      simp

theorem halt (h : d.Chronicled rulings) : (d.halt Stage.surroundings).Chronicled rulings where
  coherent := h.coherent.serve (.stop Stage.host d.env)
  leads := by
    have hstop : (d.task.stop Stage.host d.env).task.exclusions = d.task.exclusions := by
      rw [Task.task_stop]
    rw [Drive.halt]
    exact hstop ▸ h.leads
  decisions_eq := h.decisions_eq
  fighter_eq := by
    have henv : (d.halt Stage.surroundings).env = d.env := Stage.env_stop d.task d.env
    rw [henv]
    exact h.fighter_eq

theorem next (h : d.Chronicled rulings) :
    ∃ rulings', (d.next Stage.surroundings).Chronicled rulings' := by
  rcases next_cases Stage.surroundings d with ⟨-, hnext⟩ | ⟨-, -, hnext⟩ | ⟨-, -, hnext⟩
  · exact ⟨rulings, by rwa [hnext]⟩
  · exact ⟨rulings, by rw [hnext]; exact h.halt⟩
  · rw [hnext]
    exact h.advance

theorem mem_excluded_iff (h : d.Chronicled rulings) (guid : Guid) :
    guid ∈ d.env.fighter.excluded ↔ ∃ since, LastExcluded d.decisions guid since := by
  rw [h.fighter_eq, Fighter.mem_excluded_foldl_after, h.decisions_eq, Option.isSome_iff_exists]
  constructor
  · rintro ⟨expiry, hexpiry⟩
    obtain ⟨since, hsince, -⟩ := (h.leads.replay_eq_some_iff guid expiry).mp hexpiry
    exact ⟨since, hsince⟩
  · rintro ⟨since, hsince⟩
    exact ⟨_, (h.leads.replay_eq_some_iff guid _).mpr ⟨since, hsince, rfl⟩⟩

/-- At readings that no decision is ahead of, the task still excludes the creatures whose last
exclusion has not expired. -/
theorem contains_iff (h : d.Chronicled rulings) {now : Timestamp}
    (hnow : ∀ decision ∈ d.decisions, decision.1 ≤ now) (guid : Guid) :
    d.task.exclusions.contains guid now = true ↔
      ∃ since, LastExcluded d.decisions guid since ∧
        now < since.after Exclusions.lifetime := by
  have hahead : Ruling.NoneAhead rulings now := by
    rintro before r after rfl ⟨other, hdecision⟩ -
    refine hnow (r.now, .exclude other) ?_
    rw [h.decisions_eq, List.mem_filterMap]
    exact ⟨r, by simp, by simp [Ruling.decided?, hdecision]⟩
  rw [h.leads.mirrors.contains_iff hahead, h.decisions_eq]
  simp only [h.leads.replay_eq_some_iff]
  constructor
  · rintro ⟨_, ⟨since, hsince, rfl⟩, hlive⟩
    exact ⟨since, hsince, hlive⟩
  · rintro ⟨since, hsince, hlive⟩
    exact ⟨_, ⟨since, hsince, rfl⟩, hlive⟩

end Chronicled

end Drive

theorem Replay.decisions_ofDrive (d : Drive Stage) : (ofDrive d).decisions = d.decisions :=
  ReplayTick.filterMap_number (fun (now, report) => report.decision?.map (now, ·)) 1 d.reports

/-- The clock of the last tick of a replay is not behind that of any other, if the frames are in the
order of their clocks. -/
theorem Replay.Covers.exists_last {frames : List World} {boss : Kind} {replay : Replay}
    (h : replay.Covers frames boss) (hframes : frames ≠ [])
    (hclock : frames.Pairwise fun earlier later => earlier.now ≤ later.now) :
    ∃ last, replay.ticks.getLast? = some last ∧ ∀ tick ∈ replay.ticks, tick.now ≤ last.now := by
  have hticks : replay.ticks ≠ [] := by
    rw [← List.length_pos_iff] at hframes ⊢
    cases hfall : frames.findIdx? (·.isRidOf boss) with
    | none => rwa [(h.never_rid hfall).1]
    | some i =>
        rw [(h.rid i hfall).1]
        exact Nat.succ_pos i
  refine ⟨replay.ticks.getLast hticks, List.getLast?_eq_some_getLast hticks, ?_⟩
  intro tick hmem
  obtain ⟨k, hk, rfl⟩ := List.getElem_of_mem hmem
  have hlast : replay.ticks[replay.ticks.length - 1]? = some (replay.ticks.getLast hticks) := by
    rw [← List.getLast?_eq_getElem?, List.getLast?_eq_some_getLast hticks]
  obtain ⟨frame, _, _, hframe, htick, -⟩ := h.tick k _ (List.getElem?_eq_getElem hk)
  obtain ⟨frame', _, _, hframe', htick', -⟩ := h.tick _ _ hlast
  rw [htick, htick']
  rcases (Nat.le_sub_one_of_lt hk).lt_or_eq with hlt | rfl
  · obtain ⟨hk, rfl⟩ := List.getElem?_eq_some_iff.mp hframe
    obtain ⟨hend, rfl⟩ := List.getElem?_eq_some_iff.mp hframe'
    exact List.pairwise_iff_getElem.mp hclock k _ hk hend hlt
  · obtain rfl := Option.some.inj (hframe.symm.trans hframe')
    exact Timestamp.le_iff_toNat_le.mpr (Nat.le_refl _)

namespace Script

variable {script : Script} {config : Config}

theorem exists_chronicled_play (script : Script) : ∃ rulings, script.play.Chronicled rulings :=
  Drive.run_induction (P := fun d => ∃ rulings, d.Chronicled rulings)
    (fun _ ⟨_, h⟩ => h.next)
    ⟨[], Task.coherent_fresh (Config.ofAttributes script.attributes), .nil _, rfl, rfl⟩
    script.rounds

theorem opening_eq (hattributes : Config.ofAttributes script.attributes = .ok config) :
    script.opening =
      { task := Task.fresh (.ok config), env := { reel := { pending := script.frames } } } := by
  rw [opening, Task.ofAttributes, hattributes]
  rfl

/-- Along frames in the order of their clocks, a replay of accepted attributes leaves excluded, in
ascending order, what was excluded since the last flush, and the task what of it has not expired.
So the two are the same exactly if nothing has. -/
theorem replay_leaves_excluded (hattributes : Config.ofAttributes script.attributes = .ok config)
    (hframes : script.frames ≠ [])
    (hclock : script.frames.Pairwise fun earlier later => earlier.now ≤ later.now) :
    ∃ replay last, script.replay = .ok replay ∧ replay.ticks.getLast? = some last ∧
      replay.excluded.Pairwise (·.val < ·.val) ∧
      (∀ guid, guid ∈ replay.excluded ↔ ∃ since, LastExcluded replay.decisions guid since) ∧
      (∀ guid, script.play.task.exclusions.contains guid last.now = true ↔
        ∃ since, LastExcluded replay.decisions guid since ∧
          last.now < since.after Exclusions.lifetime) ∧
      ((∀ guid, guid ∈ replay.excluded ↔
          script.play.task.exclusions.contains guid last.now = true) ↔
        ∀ guid since, LastExcluded replay.decisions guid since →
          last.now < since.after Exclusions.lifetime) := by
  obtain ⟨rulings, hchronicled⟩ := script.exists_chronicled_play
  obtain ⟨replay, hreplay, hcovers⟩ := exists_replay_covers hattributes hframes
  obtain rfl : Replay.ofDrive script.play = replay := by
    simpa [Script.replay, play_finished hattributes] using hreplay
  obtain ⟨last, hlast, hbehind⟩ := hcovers.exists_last hframes hclock
  have hdecisions := Replay.decisions_ofDrive script.play
  have hnow : ∀ decision ∈ script.play.decisions, decision.1 ≤ last.now := by
    intro decision hmem
    rw [← hdecisions] at hmem
    obtain ⟨tick, htick, hdecision⟩ := List.mem_filterMap.mp hmem
    obtain ⟨_, -, rfl⟩ := Option.map_eq_some_iff.mp hdecision
    exact hbehind tick htick
  have hexcluded : ∀ guid, guid ∈ (Replay.ofDrive script.play).excluded ↔
      ∃ since, LastExcluded script.play.decisions guid since := hchronicled.mem_excluded_iff
  have hcontains := hchronicled.contains_iff hnow
  refine ⟨_, last, hreplay, hlast, ?_, ?_, ?_, ?_⟩
  · rw [Replay.ofDrive, hchronicled.fighter_eq]
    exact Fighter.pairwise_excluded_foldl_after _
  · rw [hdecisions]
    exact hexcluded
  · rw [hdecisions]
    exact hcontains
  · simp only [hdecisions, hexcluded, hcontains]
    constructor
    · intro hsame guid since hsince
      obtain ⟨since', hsince', hlive⟩ := (hsame guid).mp ⟨since, hsince⟩
      rwa [hsince.unique hsince']
    · intro hlive guid
      constructor
      · rintro ⟨since, hsince⟩
        exact ⟨since, hsince, hlive guid since hsince⟩
      · rintro ⟨since, hsince, -⟩
        exact ⟨since, hsince⟩

/-- Of two creatures left excluded, one was excluded five minutes before the end. -/
theorem replay_leaves_excluded_one_lapsed :
    let boss : Creature := { guid := ⟨1⟩, kind := ⟨100⟩, distance := ⟨0⟩ }
    let first : Creature := { guid := ⟨4⟩, kind := ⟨300⟩, distance := ⟨0⟩ }
    let second : Creature := { guid := ⟨3⟩, kind := ⟨300⟩, distance := ⟨0⟩ }
    let script : Script :=
      { attributes := Attributes.ofList [("BlacklistMob1", "300"), ("BossId", "100")]
        frames :=
          [{ now := ⟨0⟩, creatures := [boss, first] },
            { now := ⟨200000⟩, creatures := [boss, second] },
            { now := ⟨300000⟩, creatures := [boss] }] }
    let config : Config := { boss := ⟨100⟩, blacklist := [⟨300⟩] }
    Config.ofAttributes script.attributes = .ok config ∧ script.frames ≠ [] ∧
      (script.frames.Pairwise fun earlier later => earlier.now ≤ later.now) ∧
      ∃ replay last, script.replay = .ok replay ∧ replay.ticks.getLast? = some last ∧
        replay.excluded = [⟨3⟩, ⟨4⟩] ∧
        (∃ since, LastExcluded replay.decisions ⟨4⟩ since) ∧
        script.play.task.exclusions.contains ⟨3⟩ last.now = true ∧
        ¬ ∀ guid since, LastExcluded replay.decisions guid since →
          last.now < since.after Exclusions.lifetime := by
  intro boss first second script config
  have hattributes : Config.ofAttributes script.attributes = .ok config := by decide +kernel
  have hframes : script.frames ≠ [] := List.cons_ne_nil _ _
  have hclock : script.frames.Pairwise fun earlier later => earlier.now ≤ later.now := by decide
  have hleft : script.replay.toOption.map (fun replay =>
      (replay.excluded, replay.ticks.getLast?.map ReplayTick.now)) =
        some ([⟨3⟩, ⟨4⟩], some ⟨300000⟩) := by
    rw [replay, play, opening_eq hattributes]
    decide +kernel
  have hheld : script.play.task.exclusions.contains ⟨3⟩ ⟨300000⟩ = true ∧
      script.play.task.exclusions.contains ⟨4⟩ ⟨300000⟩ = false := by
    rw [play, opening_eq hattributes]
    decide +kernel
  obtain ⟨replay, last, hreplay, hlast, -, hexcluded, -, hsame⟩ :=
    replay_leaves_excluded hattributes hframes hclock
  obtain ⟨hguids, hnow⟩ : replay.excluded = [⟨3⟩, ⟨4⟩] ∧ last.now = ⟨300000⟩ := by
    simpa [hreplay, Except.toOption, hlast] using hleft
  refine ⟨hattributes, hframes, hclock, replay, last, hreplay, hlast, hguids,
    (hexcluded ⟨4⟩).mp (by simp [hguids]), hnow ▸ hheld.1, fun hlive => ?_⟩
  have hcontains := (hsame.mpr hlive ⟨4⟩).mp (by simp [hguids])
  rw [hnow, hheld.2] at hcontains
  exact Bool.false_ne_true hcontains

/-- What a replay leaves excluded need not be what the task then excludes. -/
theorem lapsed_left_excluded :
    ¬ ∀ (script : Script) (config : Config),
        Config.ofAttributes script.attributes = .ok config → script.frames ≠ [] →
        (script.frames.Pairwise fun earlier later => earlier.now ≤ later.now) →
        ∃ replay last, script.replay = .ok replay ∧ replay.ticks.getLast? = some last ∧
          replay.excluded.Pairwise (·.val < ·.val) ∧
          ∀ guid, guid ∈ replay.excluded ↔
            script.play.task.exclusions.contains guid last.now = true := by
  intro hclaim
  let boss : Creature := { guid := ⟨1⟩, kind := ⟨100⟩, distance := ⟨0⟩ }
  let add : Creature := { guid := ⟨3⟩, kind := ⟨300⟩, distance := ⟨0⟩ }
  let script : Script :=
    { attributes := Attributes.ofList [("BlacklistMob1", "300"), ("BossId", "100")]
      frames :=
        [{ now := ⟨0⟩, creatures := [boss, add] }, { now := ⟨300000⟩, creatures := [boss] }] }
  let config : Config := { boss := ⟨100⟩, blacklist := [⟨300⟩] }
  have hattributes : Config.ofAttributes script.attributes = .ok config := by decide +kernel
  have hleft : script.replay.toOption.map (fun replay =>
      (replay.excluded, replay.ticks.getLast?.map ReplayTick.now)) =
        some ([⟨3⟩], some ⟨300000⟩) := by
    rw [replay, play, opening_eq hattributes]
    decide +kernel
  have hheld : script.play.task.exclusions.contains ⟨3⟩ ⟨300000⟩ = false := by
    rw [play, opening_eq hattributes]
    decide +kernel
  obtain ⟨replay, last, hreplay, hlast, -, hsame⟩ :=
    hclaim script config hattributes (List.cons_ne_nil _ _) (by decide)
  obtain ⟨hguids, hnow⟩ : replay.excluded = [⟨3⟩] ∧ last.now = ⟨300000⟩ := by
    simpa [hreplay, Except.toOption, hlast] using hleft
  have hcontains := (hsame ⟨3⟩).mp (by simp [hguids])
  rw [hnow, hheld] at hcontains
  exact Bool.false_ne_true hcontains

end Script

end Encounter
