import Encounter.Proofs.Tree.Outcome

/-!
# Trees written out as tables

The table of a tree lists its leaves from left to right, each with the conditions on its path.  To
read a tick off the table, one asks all conditions before the tick and performs the leaves behind
open gates in order, up to the first that does not fail.  The tree itself asks a condition when it
comes to it, after other leaves have failed, and asks it once for a whole subtree.  The two agree as
soon as a leaf that fails has no say in any condition.
-/

namespace Encounter

variable {γ α κ : Type}

/-- A leaf with the conditions that it stands behind, outermost first. -/
structure Row (γ α : Type) where
  conditions : List γ
  act : α
  deriving DecidableEq, Repr

def Row.behind (condition : γ) (row : Row γ α) : Row γ α :=
  { row with conditions := condition :: row.conditions }

namespace Node

mutual

def table : Node γ α → List (Row γ α)
  | .guard condition child => child.table.map (Row.behind condition)
  | .priority children => tableOf children
  | .action act => [{ conditions := [], act }]

def tableOf : List (Node γ α) → List (Row γ α)
  | [] => []
  | child :: rest => child.table ++ tableOf rest

end

mutual

theorem map_act_table : ∀ tree : Node γ α, tree.table.map Row.act = tree.leaves
  | .guard condition child => by
      rw [table, leaves, List.map_map, ← map_act_table child]
      rfl
  | .priority children => by
      rw [table, leaves]
      exact map_act_tableOf children
  | .action act => by
      rw [table, leaves]
      rfl

theorem map_act_tableOf : ∀ children : List (Node γ α),
    (tableOf children).map Row.act = leavesOf children
  | [] => by
      rw [tableOf, leavesOf, List.map_nil]
  | child :: rest => by
      rw [tableOf, leavesOf, List.map_append, map_act_table child, map_act_tableOf rest]

end

end Node

namespace Behaviour

/-- Performs leaves in order, up to the first that does not fail. -/
def performFirst (b : Behaviour γ α κ) : List α → κ → Status × κ
  | [], k => (.failure, k)
  | act :: rest, k =>
      match b.perform act k with
      | (.failure, k') => b.performFirst rest k'
      | answer => answer

/-- The leaves whose conditions all hold. -/
def openActs (b : Behaviour γ α κ) (rows : List (Row γ α)) (k : κ) : List α :=
  (rows.filter fun row => row.conditions.all (b.holds · k)).map Row.act

/-- Leaves that fail leave all conditions as they are. -/
def IsSteady (b : Behaviour γ α κ) : Prop :=
  ∀ act k, (b.perform act k).1 = .failure →
    ∀ condition, b.holds condition (b.perform act k).2 = b.holds condition k

variable {b : Behaviour γ α κ}

/-- The leaves of a list are performed as a branch of nothing but them performs them. -/
theorem performFirst_eq_tickFirst (b : Behaviour γ α κ) (acts : List α) (k : κ) :
    b.performFirst acts k = Node.tickFirst b (acts.map Node.action) k := by
  induction acts generalizing k with
  | nil => rw [List.map_nil, performFirst, Node.tickFirst_nil]
  | cons act rest ih =>
      rw [List.map_cons, performFirst, Node.tickFirst_cons, Node.tick_action]
      rcases b.perform act k with ⟨status, k'⟩
      cases status <;> simp [ih]

theorem performFirst_append (b : Behaviour γ α κ) (first second : List α) (k : κ) :
    b.performFirst (first ++ second) k =
      if (b.performFirst first k).1 = .failure then
        b.performFirst second (b.performFirst first k).2
      else b.performFirst first k := by
  simp only [performFirst_eq_tickFirst, List.map_append, Node.tickFirst_append]

theorem performFirst_singleton (b : Behaviour γ α κ) (act : α) (k : κ) :
    b.performFirst [act] k = b.perform act k := by
  rw [performFirst_eq_tickFirst, List.map_singleton, Node.tickFirst_singleton, Node.tick_action]

theorem openActs_append (b : Behaviour γ α κ) (first second : List (Row γ α)) (k : κ) :
    b.openActs (first ++ second) k = b.openActs first k ++ b.openActs second k := by
  rw [openActs, List.filter_append, List.map_append]
  rfl

theorem openActs_behind (b : Behaviour γ α κ) (condition : γ) (rows : List (Row γ α)) (k : κ) :
    b.openActs (rows.map (Row.behind condition)) k =
      if b.holds condition k then b.openActs rows k else [] := by
  rw [openActs, List.filter_map, List.map_map]
  by_cases hopen : b.holds condition k = true
  · rw [if_pos hopen]
    simp only [openActs, Function.comp_def, Row.behind, List.all_cons, hopen, Bool.true_and]
  · rw [if_neg hopen]
    simp [Function.comp_def, Row.behind, hopen]

theorem openActs_congr {k k' : κ} (h : ∀ condition, b.holds condition k' = b.holds condition k)
    (rows : List (Row γ α)) : b.openActs rows k' = b.openActs rows k := by
  simp only [openActs, h]

/-- A tree that fails leaves all conditions as they are. -/
theorem IsSteady.holds_tick (h : b.IsSteady) {tree : Node γ α} {k : κ}
    (hfailed : (tree.tick b k).1 = .failure) (condition : γ) :
    b.holds condition (tree.tick b k).2 = b.holds condition k := by
  have houtcome : Outcome (fun k' => ∀ condition, b.holds condition k' = b.holds condition k)
      (fun _ _ => True) (tree.tick b k) := by
    apply Node.tick_outcome
    · intro act k' hk'
      refine ⟨fun hact condition => ?_, fun _ => trivial⟩
      rw [h act k' hact, hk']
    · intro condition
      rfl
  exact houtcome.kept hfailed condition

end Behaviour

namespace Node

mutual

theorem tick_eq_performFirst {b : Behaviour γ α κ} (h : b.IsSteady) :
    ∀ (tree : Node γ α) (k : κ), tree.tick b k = b.performFirst (b.openActs tree.table k) k
  | .guard condition child, k => by
      rw [tick_guard, table, Behaviour.openActs_behind, tick_eq_performFirst h child k]
      by_cases hopen : b.holds condition k = true
      · rw [if_pos hopen, if_pos hopen]
      · rw [if_neg hopen, if_neg hopen]
        rfl
  | .priority children, k => by
      rw [tick_priority, table]
      exact tickFirst_eq_performFirst h children k
  | .action act, k => by
      have hact : b.openActs (action act : Node γ α).table k = [act] := by
        rw [table]
        rfl
      rw [tick_action, hact, Behaviour.performFirst_singleton]

theorem tickFirst_eq_performFirst {b : Behaviour γ α κ} (h : b.IsSteady) :
    ∀ (children : List (Node γ α)) (k : κ),
      tickFirst b children k = b.performFirst (b.openActs (tableOf children) k) k
  | [], k => by
      rw [tickFirst_nil, tableOf]
      rfl
  | child :: rest, k => by
      rw [tickFirst_cons, tableOf, Behaviour.openActs_append, Behaviour.performFirst_append,
        ← tick_eq_performFirst h child k, tickFirst_eq_performFirst h rest]
      by_cases hfailed : (child.tick b k).1 = .failure
      -- The tree asks the conditions of the rest only now, the table has asked them before.
      · rw [if_pos hfailed, if_pos hfailed, Behaviour.openActs_congr (h.holds_tick hfailed)]
      · rw [if_neg hfailed, if_neg hfailed]

end

end Node

end Encounter
