import Encounter.Proofs.Task.Attention

/-!
# Standing off a living boss

A boss that is alive and unshielded, with nothing of the kill order around, is there to be fought.
Two cases of the policy come first, though: a creature of the blacklist that is not excluded is
excluded, and the exclusions are dropped when they are of no use, which is at once.  So while a
single creature of the blacklist lives, the two cases take turns on every tick and the boss is never
fought; without one it is fought on every tick.
-/

namespace Encounter

variable {ε : Type}

/-- A creature that the policy may exclude. -/
def Creature.isBlacklisted (config : Config) (c : Creature) : Bool :=
  c.isEligible config.blacklist fun c => c.kind != config.boss

/-- A boss that nothing is left to be done about but to fight it. -/
structure Config.Exposes (config : Config) (creatures : List Creature) (boss : Creature) : Prop where
  first : Query.firstOfKind creatures config.boss = some boss
  alive : boss.alive = true
  unshielded : boss.hasAura config.aura = false
  unignored : config.ignoreBoss = false
  unguarded : ∀ c ∈ creatures, c.isEligible config.killOrder (fun _ => true) = false

def Decision.fights : Decision → Bool
  | .engageBoss _ | .routine _ => true
  | .complete | .exclude _ | .engagePriority _ | .flushExclusions => false

def Reply.fights (reply : Reply) : Prop :=
  ∃ status decision, reply.evaluation? = some (status, some decision) ∧ decision.fights = true

/-- The policy has excluded a creature of the blacklist or dropped all exclusions. -/
def Reply.StandsOff (config : Config) (creatures : List Creature) (reply : Reply) : Prop :=
  ∃ decision, reply.evaluation? = some (.success, some decision) ∧
    (decision = .flushExclusions ∨
      ∃ c ∈ creatures, c.isBlacklisted config = true ∧ decision = .exclude c.guid)

theorem Reply.StandsOff.not_fights {config : Config} {creatures : List Creature} {reply : Reply}
    (h : reply.StandsOff config creatures) : ¬ reply.fights := by
  rintro ⟨status, decision, hreply, hfights⟩
  obtain ⟨decision', hreply', hdecision⟩ := h
  obtain ⟨-, rfl⟩ : Status.success = status ∧ decision' = decision := by
    simpa using hreply'.symm.trans hreply
  rcases hdecision with rfl | ⟨c, -, -, rfl⟩ <;> simp [Decision.fights] at hfights

theorem CombatRoutine.settled_of_perform {routine : CombatRoutine ε} {part : RoutinePart}
    (hpart : ∀ env, (routine.perform part env).1 = .success) {attempts : List Attempt}
    (hmem : .perform part ∈ attempts) (env : ε) :
    (routine.attempt attempts env).settled.isSome = true := by
  induction attempts generalizing env with
  | nil => simp at hmem
  | cons first rest ih =>
      cases first with
      | target guid decision =>
          have hrest := ih (by simpa using hmem)
          rcases hanswer : routine.target guid env with ⟨_ | _, env'⟩
          · simp only [attempt, hanswer]
            exact hrest env'
          · simp only [attempt, hanswer, Option.isSome_some]
      | perform other =>
          rcases hanswer : routine.perform other env with ⟨_ | _ | _, env'⟩
          · simp only [attempt, hanswer, Option.isSome_some]
          · simp only [attempt, hanswer]
            rcases List.mem_cons.mp hmem with hsame | hmem
            · obtain rfl := Attempt.perform.inj hsame
              simpa [hanswer] using hpart env
            · exact ih hmem env'
          · simp only [attempt, hanswer, Option.isSome_some]

/-! ## One tick before an exposed boss -/

namespace FlatPolicy

variable {config : Config} {world : World} {boss : Creature}

theorem fights_of_mem_bossAttempts {attempt : Attempt} (h : attempt ∈ bossAttempts world boss) :
    attempt.decision.fights = true := by
  have hparts : ∀ a ∈ parts, a.decision.fights = true := by decide
  unfold bossAttempts at h
  split at h
  next =>
    rcases List.mem_cons.mp h with rfl | h
    · rfl
    · exact hparts attempt h
  next => exact hparts attempt h

theorem perform_combat_mem_bossAttempts : .perform .combat ∈ bossAttempts world boss := by
  unfold bossAttempts
  split <;> simp [parts]

theorem isBlacklisted_of_blacklisted {exclusions : Exclusions} {excluded : Bool} {c : Creature}
    (h : blacklisted config world exclusions excluded = some c) :
    c ∈ world.creatures ∧ c.isBlacklisted config = true := by
  obtain ⟨hmem, heligible⟩ := Query.isEligible_of_foremost h
  refine ⟨hmem, ?_⟩
  simp only [Creature.isBlacklisted, Creature.isEligible, Bool.and_eq_true] at heligible ⊢
  exact ⟨heligible.1, heligible.2.1⟩

/-- Every creature of the blacklist is either excluded or not. -/
theorem exists_blacklisted {c : Creature} (hmem : c ∈ world.creatures)
    (hlisted : c.isBlacklisted config = true) (exclusions : Exclusions) :
    ∃ excluded, (blacklisted config world exclusions excluded).isSome = true := by
  refine ⟨exclusions.contains c.guid world.now, ?_⟩
  have heligible : c.isEligible config.blacklist (fun a => a.kind != config.boss &&
      exclusions.contains a.guid world.now == exclusions.contains c.guid world.now) = true := by
    simp only [Creature.isBlacklisted, Creature.isEligible, Bool.and_eq_true, beq_self_eq_true]
      at hlisted ⊢
    exact ⟨hlisted.1, hlisted.2, trivial⟩
  rw [Option.isSome_iff_ne_none, blacklisted, Ne, Query.foremost_eq_none_iff]
  intro hnone
  exact absurd heligible (by simp [hnone c hmem])

variable (h : config.Exposes world.creatures boss)

include h

theorem boss_filter_of_exposes : (FlatPolicy.boss config world).filter Creature.alive = some boss :=
  Option.filter_eq_some_iff.mpr ⟨h.first, h.alive⟩

theorem priority_of_exposes : priority config world = none :=
  Query.foremost_eq_none_iff.mpr h.unguarded

theorem windowOpen_of_exposes : windowOpen config world boss = false := by
  simp [windowOpen, h.unshielded, h.unignored]

/-- Before an exposed boss nothing comes between excluding and fighting but a flush. -/
theorem engage_of_exposes (exclusions : Exclusions) (routine : CombatRoutine ε) (env : ε) :
    engage config world exclusions routine boss env =
      if (blacklisted config world exclusions true).isSome then
        { status := .success
          decision := some .flushExclusions
          exclusions := Exclusions.empty
          isDone := false
          env := routine.flush env
          calls := [.flush] }
      else
        settle exclusions [] (routine.attempt (bossAttempts world boss) env) := by
  simp [engage, windowOpen_of_exposes h, priority_of_exposes h, h.unshielded,
    CombatRoutine.attempt]

theorem standsOff_of_blacklisted {c : Creature} (hmem : c ∈ world.creatures)
    (hlisted : c.isBlacklisted config = true) {exclusions : Exclusions}
    {routine : CombatRoutine ε} {env : ε} {reply : Reply}
    (hreply : reply.evaluation? = some
      ((verdict config world exclusions routine env).status,
        (verdict config world exclusions routine env).decision)) :
    reply.StandsOff config world.creatures := by
  rw [verdict, boss_filter_of_exposes h] at hreply
  cases hcandidate : blacklisted config world exclusions false with
  | some candidate =>
      simp only [hcandidate] at hreply
      obtain ⟨hmem', hlisted'⟩ := isBlacklisted_of_blacklisted hcandidate
      exact ⟨_, hreply, .inr ⟨candidate, hmem', hlisted', rfl⟩⟩
  | none =>
      have hexcluded : (blacklisted config world exclusions true).isSome = true := by
        obtain ⟨_ | _, hsome⟩ := exists_blacklisted hmem hlisted exclusions
        · simp [hcandidate] at hsome
        · exact hsome
      simp only [hcandidate, engage_of_exposes h, hexcluded, if_true] at hreply
      exact ⟨_, hreply, .inl rfl⟩

theorem fights_of_no_blacklisted (hnone : ∀ c ∈ world.creatures, c.isBlacklisted config = false)
    {exclusions : Exclusions} {routine : CombatRoutine ε}
    (hcombat : ∀ env, (routine.perform .combat env).1 = .success) {env : ε} {reply : Reply}
    (hreply : reply.evaluation? = some
      ((verdict config world exclusions routine env).status,
        (verdict config world exclusions routine env).decision)) :
    reply.fights := by
  have habsent : ∀ excluded, blacklisted config world exclusions excluded = none := by
    intro excluded
    by_contra hsome
    obtain ⟨c, hc⟩ := Option.ne_none_iff_exists'.mp hsome
    obtain ⟨hmem, hlisted⟩ := isBlacklisted_of_blacklisted hc
    simp [hnone c hmem] at hlisted
  rw [verdict, boss_filter_of_exposes h] at hreply
  simp only [habsent, engage_of_exposes h, Option.isSome_none, Bool.false_eq_true, if_false]
    at hreply
  have hsome : (routine.attempt (bossAttempts world boss) env).settled.isSome = true :=
    CombatRoutine.settled_of_perform hcombat perform_combat_mem_bossAttempts env
  obtain ⟨⟨status, decision⟩, hsettled⟩ := Option.isSome_iff_exists.mp hsome
  obtain ⟨attempt, hmem, rfl⟩ := routine.exists_of_attempt_settled hsettled
  refine ⟨status, attempt.decision, ?_, fights_of_mem_bossAttempts hmem⟩
  simpa [settle, hsettled] using hreply

end FlatPolicy

/-! ## Ticks before an exposed boss, one after the other -/

/-- A tick on the given creatures, whatever the clock and the target, of a host that can take the
task and with a routine that is ready to fight. -/
inductive Request.Watches (creatures : List Creature) : Request ε → Prop
  | tick {host : Host ε} {routine : CombatRoutine ε} {world : World} {env : ε}
      (hcreatures : world.creatures = creatures) (hready : host.isReady env = true)
      (hcombat : ∀ env, (routine.perform .combat env).1 = .success) :
      Watches creatures (.tick host routine world env)

namespace Task

section Exposed

variable {task : Task} {config : Config} {creatures : List Creature} {boss : Creature}

/-- Every tick of a watch is a verdict on the same creatures, on some exclusions. -/
theorem Attentive.verdict_of_mem_turns (h : task.Attentive config)
    (hboss : config.Exposes creatures boss) {requests : List (Request ε)}
    (hwatch : ∀ request ∈ requests, request.Watches creatures) {turn : Turn ε Reply}
    (hturn : turn ∈ task.turns requests) :
    ∃ (world : World) (exclusions : Exclusions) (routine : CombatRoutine ε) (env : ε),
      world.creatures = creatures ∧ (∀ env, (routine.perform .combat env).1 = .success) ∧
        turn.answer.evaluation? = some
          ((FlatPolicy.verdict config world exclusions routine env).status,
            (FlatPolicy.verdict config world exclusions routine env).decision) := by
  induction requests generalizing task with
  | nil => simp [turns] at hturn
  | cons request rest ih =>
      cases hwatch request List.mem_cons_self with
      | tick hcreatures hready hcombat =>
          obtain ⟨env', opening, hevaluated⟩ := h.exists_evaluated hready _ _
          rcases List.mem_cons.mp hturn with rfl | hturn
          · exact ⟨_, task.exclusions, _, env', hcreatures, hcombat,
              hevaluated.evaluation?_eq_verdict h.isDone_eq⟩
          · refine ih (h.after_evaluated hevaluated ?_) ?_ hturn
            · simp [FlatPolicy.boss_filter_of_exposes (hcreatures ▸ hboss)]
            · intro later hlater
              exact hwatch later (List.mem_cons_of_mem _ hlater)

end Exposed

/-- A fresh task that is ticked before an exposed boss, again and again, fights it on every tick if
no creature of the blacklist lives.  If one does, it never fights: every tick excludes such a
creature or drops the exclusions. -/
theorem boss_fought_iff_no_blacklisted {config : Config} {creatures : List Creature}
    {boss : Creature} (hvalid : config.isValid = true) (hboss : config.Exposes creatures boss)
    {requests : ℕ → Request ε} (hwatch : ∀ i, (requests i).Watches creatures) :
    let turns n := (ofConfig config).turns ((List.range n).map requests)
    ((∃ turn ∈ turns (creatures.length + 2), turn.answer.fights) ↔
        ∀ c ∈ creatures, c.isBlacklisted config = false) ∧
      ((∀ c ∈ creatures, c.isBlacklisted config = false) →
        ∀ n, ∀ turn ∈ turns n, turn.answer.fights) ∧
      ((∃ c ∈ creatures, c.isBlacklisted config = true) →
        ∀ n, ∀ turn ∈ turns n, turn.answer.StandsOff config creatures) := by
  intro turns
  have hattentive := attentive_ofConfig hvalid
  have hwatches : ∀ n, ∀ request ∈ (List.range n).map requests, request.Watches creatures := by
    intro n request hmem
    obtain ⟨i, -, rfl⟩ := List.mem_map.mp hmem
    exact hwatch i
  have hfought : (∀ c ∈ creatures, c.isBlacklisted config = false) →
      ∀ n, ∀ turn ∈ turns n, turn.answer.fights := by
    intro hnone n turn hturn
    obtain ⟨world, exclusions, routine, env, rfl, hcombat, hreply⟩ :=
      hattentive.verdict_of_mem_turns hboss (hwatches n) hturn
    exact FlatPolicy.fights_of_no_blacklisted hboss hnone hcombat hreply
  have hstandoff : (∃ c ∈ creatures, c.isBlacklisted config = true) →
      ∀ n, ∀ turn ∈ turns n, turn.answer.StandsOff config creatures := by
    rintro ⟨c, hmem, hlisted⟩ n turn hturn
    obtain ⟨world, exclusions, routine, env, rfl, -, hreply⟩ :=
      hattentive.verdict_of_mem_turns hboss (hwatches n) hturn
    exact FlatPolicy.standsOff_of_blacklisted hboss hmem hlisted hreply
  refine ⟨⟨?_, ?_⟩, hfought, hstandoff⟩
  · rintro ⟨turn, hturn, hfights⟩
    by_contra hsome
    have hexists : ∃ c ∈ creatures, c.isBlacklisted config = true := by
      simpa using hsome
    exact (hstandoff hexists _ turn hturn).not_fights hfights
  · intro hnone
    have hfirst : (requests 0).serve (ofConfig config) ∈ turns (creatures.length + 2) := by
      simp [turns, List.range_succ_eq_map, Task.turns]
    exact ⟨_, hfirst, hfought hnone _ _ hfirst⟩

/-- A creature of the blacklist stands next to the boss. -/
theorem boss_fought_iff_no_blacklisted_one_add :
    let config : Config := { boss := ⟨100⟩, blacklist := [⟨300⟩] }
    let boss : Creature := { guid := ⟨1⟩, kind := ⟨100⟩, distance := ⟨0⟩ }
    let creatures : List Creature := [boss, { guid := ⟨3⟩, kind := ⟨300⟩, distance := ⟨0⟩ }]
    let requests : ℕ → Request Unit := fun i =>
      .tick .welcoming .obedient { now := ⟨UInt64.ofNat i⟩, creatures } ()
    let turns n := (ofConfig config).turns ((List.range n).map requests)
    config.isValid = true ∧ config.Exposes creatures boss ∧
      (∀ i, (requests i).Watches creatures) ∧
      ((∃ turn ∈ turns (creatures.length + 2), turn.answer.fights) ↔
        ∀ c ∈ creatures, c.isBlacklisted config = false) ∧
      ((∀ c ∈ creatures, c.isBlacklisted config = false) →
        ∀ n, ∀ turn ∈ turns n, turn.answer.fights) ∧
      ((∃ c ∈ creatures, c.isBlacklisted config = true) →
        ∀ n, ∀ turn ∈ turns n, turn.answer.StandsOff config creatures) := by
  intro config boss creatures requests turns
  have hvalid : config.isValid = true := by decide
  have hboss : config.Exposes creatures boss := by
    constructor <;> decide
  have hwatch : ∀ i, (requests i).Watches creatures := fun i => .tick rfl rfl fun _ => rfl
  exact ⟨hvalid, hboss, hwatch, boss_fought_iff_no_blacklisted hvalid hboss hwatch⟩

/-- An exposed boss need not be fought within any given number of ticks, even though the host is
ready, the clock goes forward and the routine does all it is asked for. -/
theorem boss_not_fought_beside_add :
    ¬ ∀ (config : Config) (creatures : List Creature) (boss : Creature) (target : Option Guid)
        (start : UInt64) (host : Host Unit) (routine : CombatRoutine Unit),
        config.isValid = true → config.Exposes creatures boss → start.toNat < 2 ^ 63 →
        host.isReady () = true → (∀ guid, (routine.target guid ()).1 = true) →
        (routine.perform .combat ()).1 = .success →
        ∃ turn ∈ (ofConfig config).turns ((List.range (creatures.length + 2)).map fun i =>
            Request.tick host routine { now := ⟨start + UInt64.ofNat i⟩, target, creatures } ()),
          turn.answer.fights := by
  intro hclaim
  let config : Config := { boss := ⟨100⟩, blacklist := [⟨300⟩] }
  let boss : Creature := { guid := ⟨1⟩, kind := ⟨100⟩, distance := ⟨0⟩ }
  let creatures : List Creature := [boss, { guid := ⟨3⟩, kind := ⟨300⟩, distance := ⟨0⟩ }]
  have hboss : config.Exposes creatures boss := by
    constructor <;> decide
  obtain ⟨turn, hturn, status, decision, hreply, hfights⟩ := hclaim config creatures boss none 0
    .welcoming .obedient (by decide) hboss (by decide) rfl (fun _ => rfl) rfl
  have hreplies : ((ofConfig config).turns ((List.range (creatures.length + 2)).map fun i =>
      Request.tick .welcoming .obedient { now := ⟨0 + UInt64.ofNat i⟩, creatures } ())).map
        (·.answer.evaluation?) =
      [some (.success, some (.exclude ⟨3⟩)), some (.success, some .flushExclusions),
        some (.success, some (.exclude ⟨3⟩)), some (.success, some .flushExclusions)] := by
    decide +kernel
  have hmem := List.mem_map_of_mem (f := (·.answer.evaluation?)) hturn
  rw [hreplies, hreply] at hmem
  simp only [List.mem_cons, Option.some.injEq, Prod.mk.injEq, List.not_mem_nil, or_false] at hmem
  rcases hmem with ⟨-, rfl⟩ | ⟨-, rfl⟩ | ⟨-, rfl⟩ | ⟨-, rfl⟩ <;> simp [Decision.fights] at hfights

end Task

end Encounter
