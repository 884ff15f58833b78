import Encounter.Tree.Status

/-!
# Decision trees

A tree is plain data: its conditions and its actions are values of types the user chooses.  What
they mean is given apart from the tree, by a `Behaviour` over some context, and `Node.tick` runs a
tree once in that meaning.  Actions may change the context even when they fail; conditions only
read it.
-/

namespace Encounter

/-- A decision tree with conditions in `γ` and actions in `α`. -/
inductive Node (γ α : Type) where
  | guard (condition : γ) (child : Node γ α)
  | priority (children : List (Node γ α))
  | action (act : α)

structure Behaviour (γ α κ : Type) where
  holds : γ → κ → Bool
  perform : α → κ → Status × κ

inductive TreeError where
  | emptyPriority
  deriving DecidableEq, Repr

def TreeError.message : TreeError → String
  | .emptyPriority => "Priority branch must have at least one child"

namespace Node

variable {γ α κ : Type}

def priority? : List (Node γ α) → Except TreeError (Node γ α)
  | [] => .error .emptyPriority
  | child :: rest => .ok (.priority (child :: rest))

mutual

/-- Runs a tree once.  A closed gate fails without looking at its child; a branch answers with its
first child that does not fail, and fails when every child does. -/
def tick (b : Behaviour γ α κ) : Node γ α → κ → Status × κ
  | .guard condition child, k =>
      if b.holds condition k then child.tick b k else (.failure, k)
  | .priority children, k => tickFirst b children k
  | .action act, k => b.perform act k

def tickFirst (b : Behaviour γ α κ) : List (Node γ α) → κ → Status × κ
  | [], k => (.failure, k)
  | child :: rest, k =>
      match child.tick b k with
      | (.failure, k') => tickFirst b rest k'
      | answer => answer

end

mutual

def leaves : Node γ α → List α
  | .guard _ child => child.leaves
  | .priority children => leavesOf children
  | .action act => [act]

def leavesOf : List (Node γ α) → List α
  | [] => []
  | child :: rest => child.leaves ++ leavesOf rest

end

mutual

def decEq [DecidableEq γ] [DecidableEq α] : (s t : Node γ α) → Decidable (s = t)
  | .guard c s, .guard d t =>
      match (inferInstance : Decidable (c = d)), decEq s t with
      | isTrue hc, isTrue hs => isTrue (by rw [hc, hs])
      | isFalse hc, _ => isFalse (by simp [hc])
      | _, isFalse hs => isFalse (by simp [hs])
  | .priority ss, .priority ts =>
      match decEqList ss ts with
      | isTrue h => isTrue (by rw [h])
      | isFalse h => isFalse (by simp [h])
  | .action a, .action b =>
      match (inferInstance : Decidable (a = b)) with
      | isTrue h => isTrue (by rw [h])
      | isFalse h => isFalse (by simp [h])
  | .guard _ _, .priority _ => isFalse nofun
  | .guard _ _, .action _ => isFalse nofun
  | .priority _, .guard _ _ => isFalse nofun
  | .priority _, .action _ => isFalse nofun
  | .action _, .guard _ _ => isFalse nofun
  | .action _, .priority _ => isFalse nofun

def decEqList [DecidableEq γ] [DecidableEq α] :
    (ss ts : List (Node γ α)) → Decidable (ss = ts)
  | [], [] => isTrue rfl
  | [], _ :: _ => isFalse nofun
  | _ :: _, [] => isFalse nofun
  | s :: ss, t :: ts =>
      match decEq s t, decEqList ss ts with
      | isTrue hs, isTrue hss => isTrue (by rw [hs, hss])
      | isFalse hs, _ => isFalse (by simp [hs])
      | _, isFalse hss => isFalse (by simp [hss])

end

instance {γ α : Type} [DecidableEq γ] [DecidableEq α] : DecidableEq (Node γ α) :=
  decEq

@[simp]
theorem tick_guard (b : Behaviour γ α κ) (condition : γ) (child : Node γ α) (k : κ) :
    (guard condition child).tick b k =
      if b.holds condition k then child.tick b k else (.failure, k) := by
  rw [tick]

@[simp]
theorem tick_priority (b : Behaviour γ α κ) (children : List (Node γ α)) (k : κ) :
    (priority children).tick b k = tickFirst b children k := by
  rw [tick]

@[simp]
theorem tick_action (b : Behaviour γ α κ) (act : α) (k : κ) :
    (action act : Node γ α).tick b k = b.perform act k := by
  rw [tick]

@[simp]
theorem tickFirst_nil (b : Behaviour γ α κ) (k : κ) :
    tickFirst b ([] : List (Node γ α)) k = (.failure, k) := by
  rw [tickFirst]

theorem tickFirst_cons (b : Behaviour γ α κ) (child : Node γ α) (rest : List (Node γ α)) (k : κ) :
    tickFirst b (child :: rest) k =
      if (child.tick b k).1 = .failure then tickFirst b rest (child.tick b k).2
      else child.tick b k := by
  rcases h : child.tick b k with ⟨status, k'⟩
  cases status <;> simp [tickFirst, h]

@[simp]
theorem tickFirst_singleton (b : Behaviour γ α κ) (child : Node γ α) (k : κ) :
    tickFirst b [child] k = child.tick b k := by
  rw [tickFirst_cons, tickFirst_nil]
  split
  next hfailed => exact Prod.ext hfailed.symm rfl
  next => rfl

theorem tickFirst_append (b : Behaviour γ α κ) (first second : List (Node γ α)) (k : κ) :
    tickFirst b (first ++ second) k =
      if (tickFirst b first k).1 = .failure then tickFirst b second (tickFirst b first k).2
      else tickFirst b first k := by
  induction first generalizing k with
  | nil =>
      rw [List.nil_append, tickFirst_nil]
      rfl
  | cons child rest ih =>
      rw [List.cons_append, tickFirst_cons, tickFirst_cons, ih]
      by_cases hfailed : (child.tick b k).1 = .failure
      · rw [if_pos hfailed, if_pos hfailed]
      · rw [if_neg hfailed, if_neg hfailed, if_neg hfailed]

end Node

end Encounter
