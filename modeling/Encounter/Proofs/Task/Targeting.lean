import Encounter.Proofs.Policy.Warrant
import Encounter.Proofs.Task.Completion
import Encounter.Proofs.Task.Refinement
import Encounter.Proofs.World.Expiry

/-!
# Targets among the excluded

Exclusions are kept by identity alone.  As long as no identity changes its kind, every identity that
is stored is one of a kind on the blacklist and not of the boss's, which is what all its creatures
have had in common when it was excluded.  Of the two creatures that a tick may ask for as targets
the boss is therefore never excluded, and the first of the kill order only if its kind is on both
lists: the search for it has no regard to exclusions.
-/

namespace Encounter

variable {ε : Type}

/-- All creatures in sight are of the kinds that `kindOf` gives to their identities. -/
def World.HasKinds (kindOf : Guid → Kind) (w : World) : Prop :=
  ∀ c ∈ w.creatures, c.kind = kindOf c.guid

def Request.HasKinds (kindOf : Guid → Kind) : Request ε → Prop
  | .tick _ _ world _ => world.HasKinds kindOf
  | .start _ _ | .stop _ _ => True

def Config.MayExclude (config : Config) (kind : Kind) : Prop :=
  kind ∈ config.blacklist ∧ kind ≠ config.boss

namespace Exclusions

/-- Stores no identity but those that are `allowed`. -/
def Within (s : Exclusions) (allowed : Guid → Prop) : Prop :=
  ∀ entry ∈ s.entries, allowed entry.1

variable {s : Exclusions} {allowed : Guid → Prop} {guid : Guid} {now : Timestamp}

theorem within_empty : empty.Within allowed := by
  intro entry hmem
  simp [empty] at hmem

theorem Within.add (h : s.Within allowed) (hguid : allowed guid) (span : Span) :
    (s.add guid span now).2.Within allowed := by
  intro entry hmem
  have hexpiry : (s.add guid span now).2.expiry? entry.1 = some entry.2 :=
    expiry?_eq_some_iff.mpr hmem
  by_cases hne : entry.1 = guid
  · rw [hne]
    exact hguid
  · have hstored : s.expiry? entry.1 = some entry.2 :=
      ((expiry?_add_iff_of_ne hne span).mp hexpiry).1
    exact h entry (expiry?_eq_some_iff.mp hstored)

theorem Within.of_contains (h : s.Within allowed) (hcontains : s.contains guid now = true) :
    allowed guid := by
  obtain ⟨expiry, hexpiry, -⟩ := contains_iff.mp hcontains
  exact h (guid, expiry) (expiry?_eq_some_iff.mp hexpiry)

theorem Within.exclusionsAfter (h : s.Within allowed) (d : Decision)
    (hd : ∀ guid, d = .exclude guid → allowed guid) :
    (d.exclusionsAfter now s).Within allowed := by
  cases d with
  | exclude guid => exact h.add (hd guid rfl) lifetime
  | flushExclusions => exact within_empty
  | complete | engagePriority | engageBoss | routine => exact h

end Exclusions

namespace FlatPolicy

variable {config : Config} {world : World} {exclusions : Exclusions} {kindOf : Guid → Kind}

theorem Warrant.mayExclude {guid : Guid} (hkinds : world.HasKinds kindOf)
    (h : Warrant config world exclusions (.exclude guid)) : config.MayExclude (kindOf guid) := by
  cases h with
  | @exclude c hcandidate =>
      obtain ⟨hmem, heligible⟩ := Query.isEligible_of_foremost hcandidate
      have hkind : c.kind = kindOf c.guid := hkinds c hmem
      simp only [Creature.isEligible, Bool.and_eq_true, List.contains_iff_mem, bne_iff_ne,
        ne_eq] at heligible
      rw [← hkind]
      exact ⟨heligible.1.1.1, heligible.2.1⟩

theorem kind_mem_killOrder_of_priority {c : Creature} (h : priority config world = some c) :
    c ∈ world.creatures ∧ c.kind ∈ config.killOrder := by
  obtain ⟨hmem, heligible⟩ := Query.isEligible_of_foremost h
  simp only [Creature.isEligible, Bool.and_eq_true, List.contains_iff_mem] at heligible
  exact ⟨hmem, heligible.1.1.1⟩

theorem kind_eq_of_boss {c : Creature} (h : boss config world = some c) :
    c ∈ world.creatures ∧ c.kind = config.boss := by
  have hfind : world.creatures.find? (·.kind == config.boss) = some c := h
  have hkind := List.find?_some hfind
  exact ⟨List.mem_of_find?_eq_some hfind, by simpa using hkind⟩

end FlatPolicy

namespace Task

section Within

variable {config : Config} {kindOf : Guid → Kind} {task : Task}

theorem Coherent.within_serve (h : task.Coherent) (hconfig : task.config = .ok config)
    {request : Request ε} (hkinds : request.HasKinds kindOf)
    (hwithin : task.exclusions.Within fun guid => config.MayExclude (kindOf guid)) :
    (request.serve task).task.exclusions.Within
      fun guid => config.MayExclude (kindOf guid) := by
  cases hevaluation : (request.serve task).answer.evaluation? with
  | none =>
      rw [(quiet_of_no_evaluation hevaluation).2.1]
      exact hwithin
  | some report =>
      obtain ⟨_, routine, world, _, env, config', opening, rfl, hconfig', hdone, hturn⟩ :=
        h.evaluated_of_report hevaluation
      obtain rfl : config = config' := Except.ok.inj (hconfig.symm.trans hconfig')
      rw [hturn.exclusions]
      rcases task.runPolicy_effect config routine world env with
        ⟨-, -, hexclusions, -⟩ | ⟨d, -, hdecision, hexclusions, -⟩
      · rw [hexclusions]
        exact hwithin
      · rw [hexclusions]
        refine hwithin.exclusionsAfter d fun guid hguid => ?_
        have hverdict := congrArg Verdict.decision
          (task.runPolicy_verdict config routine world env hdone)
        have hwarrant : FlatPolicy.Warrant config world task.exclusions d :=
          FlatPolicy.warrant_of_verdict (hverdict.symm.trans hdecision)
        exact (hguid ▸ hwarrant).mayExclude hkinds

theorem within_after (config : Config) {requests : List (Request ε)}
    (hkinds : ∀ request ∈ requests, request.HasKinds kindOf) :
    ((fresh (.ok config)).after requests).exclusions.Within
      fun guid => config.MayExclude (kindOf guid) := by
  induction requests using List.reverseRecOn with
  | nil => exact Exclusions.within_empty
  | append_singleton requests request ih =>
      have hbefore := ih fun r hr => hkinds r (List.mem_append_left _ hr)
      have hcoherent := (coherent_fresh (.ok config)).after requests
      rw [after_concat]
      exact hcoherent.within_serve (config_after (fresh (.ok config)) requests)
        (hkinds request (by simp)) hbefore

/-- A tick that asks anything of the routine asks it by the flat verdict. -/
theorem Coherent.mem_verdict_of_mem_combatCalls (h : task.Coherent) {host : Host ε}
    {routine : CombatRoutine ε} {world : World} {env : ε} {call : CombatCall}
    (hmem : call ∈ ((Request.tick host routine world env).serve task).combatCalls) :
    ∃ config env', task.config = .ok config ∧
      call ∈ (FlatPolicy.verdict config world task.exclusions routine env').calls := by
  cases hevaluation :
      ((Request.tick host routine world env).serve task).answer.evaluation? with
  | none => simp [(quiet_of_no_evaluation hevaluation).1] at hmem
  | some report =>
      obtain ⟨_, _, _, _, env', config, opening, hrequest, hconfig, hdone, hturn⟩ :=
        h.evaluated_of_report hevaluation
      obtain ⟨rfl, rfl, rfl, rfl⟩ := Request.tick.inj hrequest
      rw [(hturn.eq_verdict hdone).2.1] at hmem
      exact ⟨config, env', hconfig, hmem⟩

/-- Each request for a target is made for the first of the kill order or for the boss. -/
theorem Coherent.exists_of_target_mem (h : task.Coherent) (hconfig : task.config = .ok config)
    {host : Host ε} {routine : CombatRoutine ε} {world : World} {env : ε} {guid : Guid}
    {accepted : Bool}
    (hmem : .target guid accepted ∈
      ((Request.tick host routine world env).serve task).combatCalls) :
    (∃ p, FlatPolicy.priority config world = some p ∧ p.guid = guid) ∨
      ∃ c, FlatPolicy.boss config world = some c ∧ c.guid = guid := by
  obtain ⟨config', env', hconfig', hverdict⟩ := h.mem_verdict_of_mem_combatCalls hmem
  obtain rfl : config = config' := Except.ok.inj (hconfig.symm.trans hconfig')
  exact FlatPolicy.exists_of_target_mem_verdict hverdict

end Within

/-- In every run in which no identity changes its kind, only identities of the blacklist and not of
the boss's kind are ever stored.  So no boss is excluded, and a tick asks for an excluded target
only if that is the creature that comes first in the kill order and its kind is on both lists;
never, if no kind but the boss's is. -/
theorem excluded_target_is_on_both_lists (config : Config) {kindOf : Guid → Kind}
    {requests : List (Request ε)} (hkinds : ∀ request ∈ requests, request.HasKinds kindOf)
    (host : Host ε) (routine : CombatRoutine ε) {world : World} (env : ε)
    (hworld : world.HasKinds kindOf) :
    let task := (fresh (.ok config)).after requests
    let turn := (Request.tick host routine world env).serve task
    (∀ entry ∈ task.exclusions.entries,
        kindOf entry.1 ∈ config.blacklist ∧ kindOf entry.1 ≠ config.boss) ∧
      (∀ entry ∈ turn.task.exclusions.entries,
        kindOf entry.1 ∈ config.blacklist ∧ kindOf entry.1 ≠ config.boss) ∧
      (∀ c ∈ world.creatures, c.kind = config.boss →
        ∀ now, task.exclusions.contains c.guid now = false) ∧
      (∀ guid accepted, .target guid accepted ∈ turn.combatCalls →
        task.exclusions.contains guid world.now = true →
          ∃ c, Query.nearest world.creatures config.killOrder = some c ∧ c.guid = guid ∧
            c.kind ∈ config.killOrder ∧ c.kind ∈ config.blacklist) ∧
      ((∀ kind ∈ config.killOrder, kind ∈ config.blacklist → kind = config.boss) →
        ∀ guid accepted, .target guid accepted ∈ turn.combatCalls →
          task.exclusions.contains guid world.now = false) := by
  intro task turn
  have hcoherent : task.Coherent := (coherent_fresh (.ok config)).after requests
  have hconfig : task.config = .ok config := config_after (fresh (.ok config)) requests
  have hwithin : task.exclusions.Within fun guid => config.MayExclude (kindOf guid) :=
    within_after config hkinds
  have hboss : ∀ c ∈ world.creatures, c.kind = config.boss →
      ∀ now, task.exclusions.contains c.guid now = false := by
    intro c hmem hkind now
    by_contra hcontains
    have hallowed := hwithin.of_contains (by simpa using hcontains)
    rw [← hworld c hmem] at hallowed
    exact hallowed.2 hkind
  have htarget : ∀ guid accepted, .target guid accepted ∈ turn.combatCalls →
      task.exclusions.contains guid world.now = true →
        ∃ c, FlatPolicy.priority config world = some c ∧ c.guid = guid ∧
          c.kind ∈ config.killOrder ∧ config.MayExclude c.kind := by
    intro guid accepted hmem hcontains
    rcases hcoherent.exists_of_target_mem hconfig hmem with ⟨c, hc, rfl⟩ | ⟨c, hc, rfl⟩
    · obtain ⟨hcreature, hkillOrder⟩ := FlatPolicy.kind_mem_killOrder_of_priority hc
      have hallowed := hwithin.of_contains hcontains
      rw [← hworld c hcreature] at hallowed
      exact ⟨c, hc, rfl, hkillOrder, hallowed⟩
    · obtain ⟨hcreature, hkind⟩ := FlatPolicy.kind_eq_of_boss hc
      simp [hboss c hcreature hkind] at hcontains
  refine ⟨hwithin, hcoherent.within_serve hconfig hworld hwithin, hboss, ?_, ?_⟩
  · intro guid accepted hmem hcontains
    obtain ⟨c, hc, hguid, hkillOrder, hallowed⟩ := htarget guid accepted hmem hcontains
    have hnearest : Query.nearest world.creatures config.killOrder = some c :=
      (Query.nearestWhere_eq_foremost _ _ _).trans hc
    exact ⟨c, hnearest, hguid, hkillOrder, hallowed.1⟩
  · intro hdisjoint guid accepted hmem
    by_contra hcontains
    obtain ⟨c, -, -, hkillOrder, hlisted, hnotBoss⟩ :=
      htarget guid accepted hmem (by simpa using hcontains)
    exact hnotBoss (hdisjoint c.kind hkillOrder hlisted)

/-- While the boss is shielded, a creature whose kind is on both lists is excluded by one tick and
targeted by the next. -/
theorem excluded_target_is_on_both_lists_shielded :
    let config : Config :=
      { boss := ⟨100⟩, aura := ⟨7⟩, blacklist := [⟨300⟩], killOrder := [⟨300⟩] }
    let kindOf : Guid → Kind := fun guid => if guid = ⟨1⟩ then ⟨100⟩ else ⟨300⟩
    let creatures : List Creature :=
      [{ guid := ⟨1⟩, kind := ⟨100⟩, distance := ⟨0⟩, auras := [⟨7⟩] },
        { guid := ⟨3⟩, kind := ⟨300⟩, distance := ⟨0⟩ }]
    let requests : List (Request Unit) := [.tick .welcoming .obedient { creatures } ()]
    let world : World := { now := ⟨1⟩, creatures }
    let task := (fresh (.ok config)).after requests
    let turn := (Request.tick .welcoming .obedient world ()).serve task
    (∀ request ∈ requests, request.HasKinds kindOf) ∧ world.HasKinds kindOf ∧
      .target ⟨3⟩ true ∈ turn.combatCalls ∧ task.exclusions.contains ⟨3⟩ world.now = true ∧
      ∃ c, Query.nearest world.creatures config.killOrder = some c ∧ c.guid = ⟨3⟩ ∧
        c.kind ∈ config.killOrder ∧ c.kind ∈ config.blacklist := by
  intro config kindOf creatures requests world task turn
  have hworld : world.HasKinds kindOf := by
    intro c hmem
    simp only [world, creatures, List.mem_cons, List.not_mem_nil, or_false] at hmem
    rcases hmem with rfl | rfl <;> rfl
  have hkinds : ∀ request ∈ requests, request.HasKinds kindOf := by
    intro request hmem
    rw [List.mem_singleton.mp hmem]
    exact hworld
  have htarget : .target ⟨3⟩ true ∈ turn.combatCalls := by decide +kernel
  have hcontains : task.exclusions.contains ⟨3⟩ world.now = true := by decide +kernel
  obtain ⟨-, -, -, hlists, -⟩ :=
    excluded_target_is_on_both_lists config hkinds .welcoming .obedient () hworld
  exact ⟨hkinds, hworld, htarget, hcontains, hlists ⟨3⟩ true htarget hcontains⟩

end Task

end Encounter
