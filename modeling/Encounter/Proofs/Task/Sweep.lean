import Encounter.Proofs.Task.Standoff
import Encounter.Proofs.World.Arrangement

/-!
# Sweeping the blacklist

Before a living boss a tick excludes the first creature of the blacklist that is not excluded yet.
An exclusion hides nothing of the others from the readings that follow, and outlasts every tick
within five minutes of the first.  So the creatures of the blacklist fall into those that are swept
and those that are left, one goes over from these to those on every tick, and once all are swept
the tick goes on to other business.
-/

namespace Encounter

variable {ε : Type}

/-- A tick on the given creatures at the given reading. -/
inductive Request.ShowsAt (creatures : List Creature) (now : Timestamp) : Request ε → Prop
  | tick (host : Host ε) (routine : CombatRoutine ε) (target : Option Guid) (env : ε) :
      ShowsAt creatures now (.tick host routine { now, target, creatures } env)

namespace Exclusions

/-- From `start` to `finish` the creatures that are `swept` are excluded and those `left` are
not. -/
structure Divides (s : Exclusions) (start finish : Timestamp) (swept left : List (Creature × ℕ)) :
    Prop where
  swept : ∀ p ∈ swept, ∀ now, start ≤ now → now ≤ finish → s.contains p.1.guid now = true
  left : ∀ p ∈ left, ∀ now, start ≤ now → now ≤ finish → s.contains p.1.guid now = false

variable {s : Exclusions} {start finish now : Timestamp} {swept left : List (Creature × ℕ)}
variable {p : Creature × ℕ}

theorem Divides.find?_eq (h : s.Divides start finish swept left) (hstart : start ≤ now)
    (hfinish : now ≤ finish) :
    (swept ++ left).find? (fun p => s.contains p.1.guid now == false) = left.head? := by
  have hswept : swept.find? (fun p => s.contains p.1.guid now == false) = none := by
    rw [List.find?_eq_none]
    intro p hmem
    simp [h.swept p hmem now hstart hfinish]
  rw [List.find?_append, hswept, Option.none_or]
  cases left with
  | nil => rfl
  | cons p left =>
      apply List.find?_cons_of_pos
      simp [h.left p List.mem_cons_self now hstart hfinish]

theorem Divides.later (h : s.Divides start finish swept left) (hle : start ≤ now) :
    s.Divides now finish swept left where
  swept p hmem now' hnow := h.swept p hmem now' (Timestamp.le_trans hle hnow)
  left p hmem now' hnow := h.left p hmem now' (Timestamp.le_trans hle hnow)

theorem Divides.add (h : s.Divides start finish swept (p :: left))
    (hguids : ((swept ++ p :: left).map (·.1.guid)).Nodup) (hstart : start ≤ now) {span : Span}
    (hlasts : finish < now.after span) :
    (s.add p.1.guid span now).2.Divides now finish (swept ++ [p]) left := by
  rw [List.map_append, List.map_cons, List.nodup_middle, List.nodup_cons, ← List.map_append]
    at hguids
  have hother : ∀ q ∈ swept ++ left, q.1.guid ≠ p.1.guid := by
    intro q hmem hsame
    exact hguids.1 (hsame ▸ List.mem_map_of_mem hmem)
  constructor
  · intro q hmem later hnow hfinish
    rcases List.mem_append.mp hmem with hmem | hmem
    · rw [contains_add_of_ne (hother q (List.mem_append_left _ hmem)) hnow]
      exact h.swept q hmem later (Timestamp.le_trans hstart hnow) hfinish
    · rw [List.mem_singleton.mp hmem]
      exact contains_add_self (Timestamp.lt_of_le_of_lt hfinish hlasts)
  · intro q hmem later hnow hfinish
    rw [contains_add_of_ne (hother q (List.mem_append_right _ hmem)) hnow]
    exact h.left q (List.mem_cons_of_mem _ hmem) later (Timestamp.le_trans hstart hnow) hfinish

/-- What is excluded from a reading on outlasts every reading within five minutes of an earlier
one. -/
theorem lt_after_lifetime (hstart : start ≤ now)
    (hsoon : finish.millis.toNat < min (start.millis.toNat + 300000) (2 ^ 64 - 1)) :
    finish < now.after lifetime := by
  have hlifetime : lifetime.millis = 300000 := rfl
  have hlast : Timestamp.last.millis.toNat = 2 ^ 64 - 1 := rfl
  rw [Timestamp.le_iff_toNat_le] at hstart
  rw [Timestamp.lt_iff_toNat_lt, Timestamp.toNat_after, hlifetime, hlast]
  omega

end Exclusions

/-! ## One tick of a sweep -/

namespace FlatPolicy

variable {config : Config} {world : World} {exclusions : Exclusions}

theorem blacklisted_of_divides {start finish : Timestamp} {swept left : List (Creature × ℕ)}
    (horder : Query.Arranges world.creatures config.blacklist (fun c => c.kind != config.boss)
      (swept ++ left))
    (h : exclusions.Divides start finish swept left) (hstart : start ≤ world.now)
    (hfinish : world.now ≤ finish) :
    blacklisted config world exclusions false = left.head?.map Prod.fst := by
  rw [blacklisted, horder.foremost_eq fun c => exclusions.contains c.guid world.now == false,
    h.find?_eq hstart hfinish]

theorem verdict_of_blacklisted {c : Creature}
    (hboss : (boss config world).filter Creature.alive ≠ none)
    (hcandidate : blacklisted config world exclusions false = some c)
    (routine : CombatRoutine ε) (env : ε) :
    verdict config world exclusions routine env =
      { status := .success
        decision := some (.exclude c.guid)
        exclusions := (exclusions.add c.guid Exclusions.lifetime world.now).2
        isDone := false
        env := routine.exclude c.guid (world.now.after Exclusions.lifetime) env
        calls := [.exclude c.guid (world.now.after Exclusions.lifetime)] } := by
  obtain ⟨boss, hboss⟩ := Option.ne_none_iff_exists'.mp hboss
  simp only [verdict, hboss, hcandidate]
  rfl

theorem filter_alive_boss_ne_none {c : Creature} (hboss : boss config world = some c)
    (halive : c.alive = true) : (boss config world).filter Creature.alive ≠ none := by
  simp [hboss, halive]

/-- Where nothing is left to be excluded and the boss lives, other decisions are taken. -/
theorem decision_of_no_blacklisted (hboss : (boss config world).filter Creature.alive ≠ none)
    (hnone : blacklisted config world exclusions false = none) (routine : CombatRoutine ε)
    (env : ε) :
    let decision := (verdict config world exclusions routine env).decision
    decision ≠ some .complete ∧ ∀ guid, decision ≠ some (.exclude guid) := by
  intro decision
  constructor
  · intro hcomplete
    exact hboss (decision_eq_complete_iff.mp hcomplete)
  · intro guid hexclude
    cases warrant_of_verdict hexclude with
    | exclude hcandidate => simp [hnone] at hcandidate

end FlatPolicy

namespace Task

/-- A running task with part of the blacklist swept. -/
structure Sweeping (config : Config) (start finish : Timestamp) (swept left : List (Creature × ℕ))
    (task : Task) : Prop where
  attentive : task.Attentive config
  running : task.phase = .running
  divides : task.exclusions.Divides start finish swept left

section Sweep

variable {config : Config} {creatures : List Creature} {boss : Creature}
variable {order swept left : List (Creature × ℕ)} {start finish now : Timestamp} {task : Task}
variable {request : Request ε}

theorem Sweeping.exists_evaluated (h : Sweeping config start finish swept left task)
    (hshows : request.ShowsAt creatures now) :
    ∃ world routine env, world.creatures = creatures ∧ world.now = now ∧
      task.Evaluated config routine world env [] (request.serve task) := by
  cases hshows with
  | tick host routine target env =>
      exact ⟨_, routine, env, rfl, rfl, serve_tick_evaluated task host env routine _
        h.attentive.config_eq (.inl ⟨h.running, rfl, rfl⟩)⟩

variable (hboss : Query.firstOfKind creatures config.boss = some boss)
variable (halive : boss.alive = true)
variable (horder : Query.Arranges creatures config.blacklist (fun c => c.kind != config.boss) order)
include hboss halive horder

/-- A tick sweeps the first of those that are left. -/
theorem Sweeping.serve {i : ℕ} (hi : i < order.length)
    (h : Sweeping config start finish (order.take i) (order.drop i) task)
    (hguids : (order.map (·.1.guid)).Nodup) (hshows : request.ShowsAt creatures now)
    (hstart : start ≤ now) (hfinish : now ≤ finish)
    (hlasts : finish < now.after Exclusions.lifetime) :
    let turn := request.serve task
    turn.answer.evaluation? = some (.success, some (.exclude order[i].1.guid)) ∧
      turn.combatCalls = [.exclude order[i].1.guid (now.after Exclusions.lifetime)] ∧
      Sweeping config now finish (order.take (i + 1)) (order.drop (i + 1)) turn.task := by
  intro turn
  have hsplit : order.take i ++ order[i] :: order.drop (i + 1) = order := by
    rw [← List.drop_eq_getElem_cons hi, List.take_append_drop]
  rw [List.drop_eq_getElem_cons hi] at h
  rw [← hsplit] at horder hguids
  obtain ⟨world, routine, env, rfl, rfl, hturn⟩ := h.exists_evaluated hshows
  have hliving := FlatPolicy.filter_alive_boss_ne_none hboss halive
  have hcandidate : FlatPolicy.blacklisted config world task.exclusions false =
      some order[i].1 :=
    FlatPolicy.blacklisted_of_divides horder h.divides hstart hfinish
  have hattentive := h.attentive.after_evaluated hturn hliving
  obtain ⟨hanswer, hcalls, hexclusions, hdone⟩ := hturn.eq_verdict h.attentive.isDone_eq
  rw [FlatPolicy.verdict_of_blacklisted hliving hcandidate] at hanswer hcalls hexclusions hdone
  refine ⟨by rw [hanswer]; rfl, hcalls, hattentive, ?_, ?_⟩
  · rw [hturn.phase, hdone]
    rfl
  · rw [hexclusions, List.take_succ_eq_append_getElem hi]
    exact h.divides.add hguids hstart hlasts

/-- A tick after the sweep has other business. -/
theorem Sweeping.serve_swept (h : Sweeping config start finish order [] task)
    (hshows : request.ShowsAt creatures now) (hstart : start ≤ now) (hfinish : now ≤ finish) :
    ∃ status decision, (request.serve task).answer.evaluation? = some (status, decision) ∧
      decision ≠ some .complete ∧ ∀ guid, decision ≠ some (.exclude guid) := by
  rw [← List.append_nil order] at horder
  obtain ⟨world, routine, env, rfl, rfl, hturn⟩ := h.exists_evaluated hshows
  have hnone : FlatPolicy.blacklisted config world task.exclusions false = none :=
    FlatPolicy.blacklisted_of_divides horder h.divides hstart hfinish
  exact ⟨_, _, hturn.evaluation?_eq_verdict h.attentive.isDone_eq,
    FlatPolicy.decision_of_no_blacklisted (FlatPolicy.filter_alive_boss_ne_none hboss halive) hnone
      routine env⟩

/-- After as many ticks as there are creatures to be swept, or fewer, that many are swept. -/
theorem Sweeping.after {requests : ℕ → Request ε} {times : ℕ → Timestamp}
    (h : Sweeping config (times 0) (times order.length) [] order task)
    (hguids : (order.map (·.1.guid)).Nodup)
    (hshows : ∀ i ≤ order.length, (requests i).ShowsAt creatures (times i))
    (htimes : ∀ i j, i ≤ j → j ≤ order.length → times i ≤ times j)
    (hlasts : ∀ i ≤ order.length, times order.length < (times i).after Exclusions.lifetime) :
    ∀ i ≤ order.length, Sweeping config (times i) (times order.length) (order.take i)
      (order.drop i) (task.after ((List.range i).map requests)) := by
  intro i
  induction i with
  | zero =>
      intro _
      exact h
  | succ i ih =>
      intro hi
      have hbefore := ih (by omega)
      obtain ⟨-, -, hattentive, hrunning, hdivides⟩ := hbefore.serve hboss halive horder hi hguids
        (hshows i (by omega)) (htimes i i le_rfl (by omega)) (htimes i _ (by omega) le_rfl)
        (hlasts i (by omega))
      rw [List.range_succ, List.map_append, List.map_singleton, after_concat]
      -- The tick tells what is excluded from its reading on; the next reading is not before it.
      exact ⟨hattentive, hrunning, hdivides.later (htimes i (i + 1) (by omega) hi)⟩

omit hboss halive in
/-- A running task that has excluded nothing of the blacklist yet. -/
theorem sweeping_of_new {history : List (Request ε)}
    (hphase : ((fresh (.ok config)).after history).phase = .running)
    (hnew : ∀ c ∈ creatures, c.isBlacklisted config = true →
      ((fresh (.ok config)).after history).exclusions.contains c.guid start = false)
    (finish : Timestamp) :
    Sweeping config start finish [] order ((fresh (.ok config)).after history) where
  attentive := ⟨config_after (fresh (.ok config)) history, (running_after_fresh hphase).2,
    by simp [hphase]⟩
  running := hphase
  divides := by
    refine ⟨by simp, fun p hmem now hnow _ => ?_⟩
    obtain ⟨hplace, hlisted⟩ := horder.mem_iff.mp hmem
    exact Exclusions.not_contains_of_le (hnew p.1 (List.mem_of_getElem? hplace) hlisted) hnow

end Sweep

/-- A running task before a living boss is ticked once for each creature of the blacklist, and once
more, within five minutes.  It excludes these creatures one by one, in the order of their kinds on
the blacklist, then of distance, then of place, with no other request of the routine; and the last
tick has other business. -/
theorem blacklist_swept_in_order (config : Config) {history : List (Request ε)}
    {creatures : List Creature} {boss : Creature} {requests : ℕ → Request ε}
    {times : ℕ → Timestamp} {n : ℕ}
    (hphase : ((fresh (.ok config)).after history).phase = .running)
    (hboss : Query.firstOfKind creatures config.boss = some boss) (halive : boss.alive = true)
    (hcount : creatures.countP (·.isBlacklisted config) = n)
    (hguids : ((creatures.filter (·.isBlacklisted config)).map Creature.guid).Nodup)
    (hnew : ∀ c ∈ creatures, c.isBlacklisted config = true →
      ((fresh (.ok config)).after history).exclusions.contains c.guid (times 0) = false)
    (hshows : ∀ i ≤ n, (requests i).ShowsAt creatures (times i))
    (htimes : ∀ i j, i ≤ j → j ≤ n → times i ≤ times j)
    (hsoon : (times n).millis.toNat < min ((times 0).millis.toNat + 300000) (2 ^ 64 - 1)) :
    let task := (fresh (.ok config)).after history
    let turns := task.turns ((List.range (n + 1)).map requests)
    ∃ order : List (Creature × ℕ),
      order.Perm (creatures.zipIdx.filter (·.1.isBlacklisted config)) ∧
      (order.Pairwise fun p q =>
        p.1.standing config.blacklist p.2 < q.1.standing config.blacklist q.2) ∧
      order.length = n ∧
      (∀ (i : ℕ) (p : Creature × ℕ), order[i]? = some p → ∃ turn, turns[i]? = some turn ∧
        turn.answer.evaluation? = some (.success, some (.exclude p.1.guid)) ∧
        turn.combatCalls = [.exclude p.1.guid ((times i).after Exclusions.lifetime)]) ∧
      ∃ turn status decision, turns[n]? = some turn ∧
        turn.answer.evaluation? = some (status, decision) ∧
        decision ≠ some .complete ∧ ∀ guid, decision ≠ some (.exclude guid) := by
  intro task turns
  obtain ⟨order, horder⟩ :=
    Query.exists_arranges creatures config.blacklist fun c => c.kind != config.boss
  have hperm : (order.map Prod.fst).Perm (creatures.filter (·.isBlacklisted config)) :=
    horder.map_fst_perm
  obtain rfl : order.length = n := by
    rw [← hcount, List.countP_eq_length_filter, ← hperm.length_eq, List.length_map]
  have horderGuids : (order.map (·.1.guid)).Nodup := by
    have hmap := (hperm.map Creature.guid).nodup_iff.mpr hguids
    rwa [List.map_map] at hmap
  have hlasts : ∀ i ≤ order.length,
      times order.length < (times i).after Exclusions.lifetime := fun i hi =>
    Exclusions.lt_after_lifetime (htimes 0 i i.zero_le hi) hsoon
  have hswept := (sweeping_of_new horder hphase hnew (times order.length)).after hboss halive horder
    horderGuids hshows htimes hlasts
  refine ⟨order, horder.perm, horder.sorted, rfl, ?_, ?_⟩
  · intro i p hp
    obtain ⟨hi, rfl⟩ := List.getElem?_eq_some_iff.mp hp
    obtain ⟨hanswer, hcalls, -⟩ := (hswept i hi.le).serve hboss halive horder hi horderGuids
      (hshows i hi.le) (htimes i i le_rfl hi.le) (htimes i _ hi.le le_rfl) (hlasts i hi.le)
    exact ⟨_, task.getElem?_turns_range requests (by omega), hanswer, hcalls⟩
  · have hafter := hswept order.length le_rfl
    rw [List.take_length, List.drop_length] at hafter
    obtain ⟨status, decision, hanswer, hother⟩ := hafter.serve_swept hboss halive horder
      (hshows _ le_rfl) (htimes _ _ le_rfl le_rfl) (htimes _ _ le_rfl le_rfl)
    exact ⟨_, status, decision, task.getElem?_turns_range requests (by omega), hanswer, hother⟩

/-- Three creatures of two kinds, two of them equally near, beside a corpse that bears the identity
of one of them. -/
theorem blacklist_swept_in_order_two_kinds :
    let config : Config := { boss := ⟨100⟩, aura := ⟨7⟩, blacklist := [⟨300⟩, ⟨100⟩, ⟨301⟩] }
    let history : List (Request Unit) := [.start .welcoming ()]
    let boss : Creature := { guid := ⟨1⟩, kind := ⟨100⟩, distance := ⟨0⟩ }
    let creatures : List Creature :=
      [{ guid := ⟨3⟩, kind := ⟨300⟩, distance := ⟨0⟩, alive := false },
        { guid := ⟨5⟩, kind := ⟨301⟩, distance := ⟨0⟩ }, boss,
        { guid := ⟨4⟩, kind := ⟨300⟩, distance := ⟨0x40800000⟩ },
        { guid := ⟨3⟩, kind := ⟨300⟩, distance := ⟨0x40800000⟩ }]
    let times : ℕ → Timestamp := fun i => ⟨UInt64.ofNat (99999 * i)⟩
    let requests : ℕ → Request Unit := fun i =>
      .tick .welcoming .obedient { now := times i, target := some ⟨i.toUInt64⟩, creatures } ()
    let task := (fresh (.ok config)).after history
    let turns := task.turns ((List.range (3 + 1)).map requests)
    task.phase = .running ∧ Query.firstOfKind creatures config.boss = some boss ∧
      boss.alive = true ∧ creatures.countP (·.isBlacklisted config) = 3 ∧
      ((creatures.filter (·.isBlacklisted config)).map Creature.guid).Nodup ∧
      (∀ c ∈ creatures, c.isBlacklisted config = true →
        task.exclusions.contains c.guid (times 0) = false) ∧
      (∀ i ≤ 3, (requests i).ShowsAt creatures (times i)) ∧
      (∀ i j, i ≤ j → j ≤ 3 → times i ≤ times j) ∧
      (times 3).millis.toNat < min ((times 0).millis.toNat + 300000) (2 ^ 64 - 1) ∧
      ∃ order : List (Creature × ℕ),
        order.Perm (creatures.zipIdx.filter (·.1.isBlacklisted config)) ∧
        (order.Pairwise fun p q =>
          p.1.standing config.blacklist p.2 < q.1.standing config.blacklist q.2) ∧
        order.length = 3 ∧
        (∀ (i : ℕ) (p : Creature × ℕ), order[i]? = some p → ∃ turn, turns[i]? = some turn ∧
          turn.answer.evaluation? = some (.success, some (.exclude p.1.guid)) ∧
          turn.combatCalls = [.exclude p.1.guid ((times i).after Exclusions.lifetime)]) ∧
        ∃ turn status decision, turns[3]? = some turn ∧
          turn.answer.evaluation? = some (status, decision) ∧
          decision ≠ some .complete ∧ ∀ guid, decision ≠ some (.exclude guid) := by
  intro config history boss creatures times requests task turns
  have hphase : task.phase = .running := by decide
  have hboss : Query.firstOfKind creatures config.boss = some boss := by decide
  have hcount : creatures.countP (·.isBlacklisted config) = 3 := by decide
  have hguids : ((creatures.filter (·.isBlacklisted config)).map Creature.guid).Nodup := by decide
  have hnew : ∀ c ∈ creatures, c.isBlacklisted config = true →
      task.exclusions.contains c.guid (times 0) = false := fun _ _ _ => rfl
  have hshows : ∀ i ≤ 3, (requests i).ShowsAt creatures (times i) := fun _ _ => .tick _ _ _ _
  have hordered : ∀ j ≤ 3, ∀ i ≤ j, times i ≤ times j := by decide
  have htimes : ∀ i j, i ≤ j → j ≤ 3 → times i ≤ times j := fun i j hij hj => hordered j hj i hij
  have hsoon : (times 3).millis.toNat < min ((times 0).millis.toNat + 300000) (2 ^ 64 - 1) := by
    decide
  exact ⟨hphase, hboss, rfl, hcount, hguids, hnew, hshows, htimes, hsoon,
    blacklist_swept_in_order config hphase hboss rfl hcount hguids hnew hshows htimes hsoon⟩

end Task

end Encounter
