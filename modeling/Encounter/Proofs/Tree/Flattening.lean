import Encounter.Proofs.Tree.Execution
import Mathlib.Logic.Relation

/-!
# Branches of branches

A branch that stands directly in a branch can give way to its children, and a branch with one child
to that child.  A branch within a branch fails where its last child has, and the outer branch goes
on from there with the same context, so neither change can be told from what a tree does.  The
changes can be made in any order: each takes one branch away, and where none can be made any more
the tree is `flattened`, the same one whichever way it was reached.
-/

namespace Encounter

open Relation (ReflTransGen)

variable {γ α κ : Type}

namespace Node

/-- One branch is taken away, at any depth. -/
inductive Flattens : Node γ α → Node γ α → Prop
  | splice (before inner after : List (Node γ α)) :
      Flattens (.priority (before ++ .priority inner :: after))
        (.priority (before ++ inner ++ after))
  | unwrap (child : Node γ α) : Flattens (.priority [child]) child
  | guard (condition : γ) {child child' : Node γ α} (h : Flattens child child') :
      Flattens (.guard condition child) (.guard condition child')
  | child (before after : List (Node γ α)) {child child' : Node γ α} (h : Flattens child child') :
      Flattens (.priority (before ++ child :: after)) (.priority (before ++ child' :: after))

mutual

def branchCount : Node γ α → ℕ
  | .guard _ child => child.branchCount
  | .priority children => branchCountOf children + 1
  | .action _ => 0

def branchCountOf : List (Node γ α) → ℕ
  | [] => 0
  | child :: rest => child.branchCount + branchCountOf rest

end

/-- The children that a child of a branch can give way to. -/
def alternatives : Node γ α → List (Node γ α)
  | .priority children => children
  | .guard condition child => [.guard condition child]
  | .action act => [.action act]

/-- A branch, if there is a choice. -/
def branch : List (Node γ α) → Node γ α
  | [child] => child
  | children => .priority children

mutual

/-- The tree without the branches that can be taken away. -/
def flattened : Node γ α → Node γ α
  | .guard condition child => .guard condition child.flattened
  | .priority children => branch (flattenedAll children)
  | .action act => .action act

def flattenedAll : List (Node γ α) → List (Node γ α)
  | [] => []
  | child :: rest => child.flattened.alternatives ++ flattenedAll rest

end

/-! ## What every step keeps -/

theorem leavesOf_append (first second : List (Node γ α)) :
    leavesOf (first ++ second) = leavesOf first ++ leavesOf second := by
  induction first with
  | nil => rw [List.nil_append, leavesOf, List.nil_append]
  | cons child rest ih => rw [List.cons_append, leavesOf, leavesOf, ih, List.append_assoc]

theorem branchCountOf_append (first second : List (Node γ α)) :
    branchCountOf (first ++ second) = branchCountOf first + branchCountOf second := by
  induction first with
  | nil => rw [List.nil_append, branchCountOf, Nat.zero_add]
  | cons child rest ih =>
      rw [List.cons_append, branchCountOf, branchCountOf, ih, Nat.add_assoc]

/-- A branch in front of other children goes on to them from where its last child has failed. -/
theorem tickFirst_splice (b : Behaviour γ α κ) (inner after : List (Node γ α)) (k : κ) :
    tickFirst b (inner ++ after) k = tickFirst b (.priority inner :: after) k := by
  rw [tickFirst_append, tickFirst_cons, tick_priority]

namespace Flattens

variable {tree other : Node γ α}

theorem leaves_eq (h : Flattens tree other) : other.leaves = tree.leaves := by
  induction h with
  | splice before inner after =>
      rw [leaves, leaves, List.append_assoc, leavesOf_append, leavesOf_append, leavesOf_append,
        leavesOf, leaves]
  | unwrap child => rw [leaves, leavesOf, leavesOf, List.append_nil]
  | guard condition _ ih => rw [leaves, leaves, ih]
  | child before after _ ih =>
      rw [leaves, leaves, leavesOf_append, leavesOf_append, leavesOf, leavesOf, ih]

theorem tick_eq (h : Flattens tree other) (b : Behaviour γ α κ) (k : κ) :
    other.tick b k = tree.tick b k := by
  induction h generalizing k with
  | splice before inner after =>
      rw [tick_priority, tick_priority, List.append_assoc, tickFirst_append b before,
        tickFirst_append b before, tickFirst_splice]
  | unwrap child => rw [tick_priority, tickFirst_singleton]
  | guard condition _ ih => rw [tick_guard, tick_guard, ih]
  | child before after _ ih =>
      rw [tick_priority, tick_priority, tickFirst_append, tickFirst_append, tickFirst_cons,
        tickFirst_cons, ih]

theorem branchCount_eq (h : Flattens tree other) : tree.branchCount = other.branchCount + 1 := by
  induction h with
  | splice before inner after =>
      rw [branchCount, branchCount, List.append_assoc, branchCountOf_append,
        branchCountOf_append, branchCountOf_append, branchCountOf, branchCount]
      omega
  | unwrap child =>
      rw [branchCount, branchCountOf, branchCountOf, Nat.add_zero]
  | guard condition _ ih => rw [branchCount, branchCount, ih]
  | child before after _ ih =>
      rw [branchCount, branchCount, branchCountOf_append, branchCountOf_append, branchCountOf,
        branchCountOf, ih]
      omega

end Flattens

/-! ## The flattened tree -/

def isBranch : Node γ α → Bool
  | .priority _ => true
  | .guard _ _ | .action _ => false

theorem alternatives_of_not_isBranch {tree : Node γ α} (h : tree.isBranch = false) :
    tree.alternatives = [tree] := by
  cases tree with
  | guard | action => rfl
  | priority => cases h

theorem alternatives_branch {children : List (Node γ α)}
    (h : ∀ child ∈ children, child.isBranch = false) :
    (branch children).alternatives = children := by
  match children, h with
  | [], _ => rfl
  | [child], h => exact alternatives_of_not_isBranch (h child List.mem_cons_self)
  | _ :: _ :: _, _ => rfl

mutual

theorem not_isBranch_of_mem_alternatives : ∀ (tree : Node γ α),
    ∀ child ∈ tree.flattened.alternatives, child.isBranch = false
  | .guard condition tree, child, hmem => by
      rw [flattened] at hmem
      rw [List.mem_singleton.mp hmem]
      rfl
  | .priority children, child, hmem => by
      have hchildren := not_isBranch_of_mem_flattenedAll children
      rw [flattened, alternatives_branch hchildren] at hmem
      exact hchildren child hmem
  | .action act, child, hmem => by
      rw [flattened] at hmem
      rw [List.mem_singleton.mp hmem]
      rfl

theorem not_isBranch_of_mem_flattenedAll : ∀ (children : List (Node γ α)),
    ∀ child ∈ flattenedAll children, child.isBranch = false
  | [], child, hmem => by
      rw [flattenedAll] at hmem
      cases hmem
  | first :: rest, child, hmem => by
      rw [flattenedAll] at hmem
      rcases List.mem_append.mp hmem with hmem | hmem
      · exact not_isBranch_of_mem_alternatives first child hmem
      · exact not_isBranch_of_mem_flattenedAll rest child hmem

end

theorem alternatives_flattened_priority (children : List (Node γ α)) :
    (priority children).flattened.alternatives = flattenedAll children := by
  rw [flattened]
  exact alternatives_branch (not_isBranch_of_mem_flattenedAll children)

theorem branch_alternatives_flattened (tree : Node γ α) :
    branch tree.flattened.alternatives = tree.flattened := by
  cases tree with
  | guard condition child =>
      rw [flattened]
      rfl
  | priority children => rw [alternatives_flattened_priority, flattened]
  | action act =>
      rw [flattened]
      rfl

theorem flattenedAll_append (first second : List (Node γ α)) :
    flattenedAll (first ++ second) = flattenedAll first ++ flattenedAll second := by
  induction first with
  | nil => rw [List.nil_append, flattenedAll, List.nil_append]
  | cons child rest ih =>
      rw [List.cons_append, flattenedAll, flattenedAll, ih, List.append_assoc]

/-- A step on the way changes nothing of where the way leads. -/
theorem Flattens.flattened_eq {tree other : Node γ α} (h : Flattens tree other) :
    other.flattened = tree.flattened := by
  induction h with
  | splice before inner after =>
      rw [flattened, flattened, List.append_assoc, flattenedAll_append, flattenedAll_append,
        flattenedAll_append, flattenedAll, alternatives_flattened_priority]
  | unwrap child =>
      rw [flattened, flattenedAll, flattenedAll, List.append_nil, branch_alternatives_flattened]
  | guard condition _ ih => rw [flattened, flattened, ih]
  | child before after _ ih =>
      rw [flattened, flattened, flattenedAll_append, flattenedAll_append, flattenedAll,
        flattenedAll, ih]

/-! ## The way there -/

theorem flattens_guard (condition : γ) {child child' : Node γ α}
    (h : ReflTransGen Flattens child child') :
    ReflTransGen Flattens (.guard condition child) (.guard condition child') := by
  apply ReflTransGen.lift (Node.guard condition) _ _ _ h
  intro _ _ hstep
  exact .guard condition hstep

theorem flattens_child (before after : List (Node γ α)) {child child' : Node γ α}
    (h : ReflTransGen Flattens child child') :
    ReflTransGen Flattens (.priority (before ++ child :: after))
      (.priority (before ++ child' :: after)) := by
  apply ReflTransGen.lift (fun c => Node.priority (before ++ c :: after)) _ _ _ h
  intro _ _ hstep
  exact .child before after hstep

theorem flattens_alternatives (before after : List (Node γ α)) (child : Node γ α) :
    ReflTransGen Flattens (.priority (before ++ child :: after))
      (.priority (before ++ child.alternatives ++ after)) := by
  cases child with
  | priority inner => exact .single (.splice before inner after)
  | guard | action =>
      rw [List.append_assoc]
      exact .refl

theorem flattens_branch (children : List (Node γ α)) :
    ReflTransGen Flattens (.priority children) (branch children) := by
  match children with
  | [] => exact .refl
  | [child] => exact .single (.unwrap child)
  | _ :: _ :: _ => exact .refl

mutual

theorem flattens_flattened : ∀ tree : Node γ α, ReflTransGen Flattens tree tree.flattened
  | .guard condition child => by
      rw [flattened]
      exact flattens_guard condition (flattens_flattened child)
  | .priority children => by
      rw [flattened]
      exact (flattens_flattenedAll [] children).trans (flattens_branch _)
  | .action act => by
      rw [flattened]

/-- Children are flattened one after the other, from the first on. -/
theorem flattens_flattenedAll : ∀ before children : List (Node γ α),
    ReflTransGen Flattens (.priority (before ++ children))
      (.priority (before ++ flattenedAll children))
  | before, [] => by
      rw [flattenedAll]
  | before, child :: rest => by
      have hchild := flattens_child before rest (flattens_flattened child)
      have hrest := flattens_flattenedAll (before ++ child.flattened.alternatives) rest
      rw [flattenedAll, ← List.append_assoc]
      exact (hchild.trans (flattens_alternatives before rest child.flattened)).trans hrest

end

/-! ## Where it ends -/

/-- No branch can be taken away. -/
def IsFlat (tree : Node γ α) : Prop :=
  ∀ other, ¬ Flattens tree other

theorem isFlat_guard {condition : γ} {child : Node γ α} (h : child.IsFlat) :
    (guard condition child).IsFlat := by
  intro other hstep
  cases hstep with
  | guard _ hchild => exact h _ hchild

theorem isFlat_action (act : α) : (action act : Node γ α).IsFlat := by
  intro other hstep
  cases hstep

theorem isFlat_branch {children : List (Node γ α)}
    (hbranch : ∀ child ∈ children, child.isBranch = false)
    (hflat : ∀ child ∈ children, child.IsFlat) : (branch children).IsFlat := by
  -- `branch` has given way to a single child; otherwise it is a branch none of whose children is.
  by_cases hsingle : ∃ child, children = [child]
  · obtain ⟨child, rfl⟩ := hsingle
    exact hflat child List.mem_cons_self
  · have hchoice : branch children = .priority children := by
      match children with
      | [] => rfl
      | [child] => exact absurd ⟨child, rfl⟩ hsingle
      | _ :: _ :: _ => rfl
    rw [hchoice]
    intro other hstep
    cases hstep with
    | splice before inner after =>
        have hinner := hbranch (.priority inner) (by simp)
        cases hinner
    | unwrap child => exact hsingle ⟨_, rfl⟩
    | child before after hchild => exact hflat _ (by simp) _ hchild

theorem isFlat_flattened_of_alternatives {tree : Node γ α}
    (h : ∀ child ∈ tree.flattened.alternatives, child.IsFlat) : tree.flattened.IsFlat := by
  rw [← branch_alternatives_flattened tree]
  exact isFlat_branch (not_isBranch_of_mem_alternatives tree) h

mutual

theorem isFlat_of_mem_alternatives : ∀ (tree : Node γ α),
    ∀ child ∈ tree.flattened.alternatives, child.IsFlat
  | .guard condition tree, child, hmem => by
      rw [flattened] at hmem
      rw [List.mem_singleton.mp hmem]
      exact isFlat_guard (isFlat_flattened_of_alternatives (isFlat_of_mem_alternatives tree))
  | .priority children, child, hmem => by
      rw [alternatives_flattened_priority] at hmem
      exact isFlat_of_mem_flattenedAll children child hmem
  | .action act, child, hmem => by
      rw [flattened] at hmem
      rw [List.mem_singleton.mp hmem]
      exact isFlat_action act

theorem isFlat_of_mem_flattenedAll : ∀ (children : List (Node γ α)),
    ∀ child ∈ flattenedAll children, child.IsFlat
  | [], child, hmem => by
      rw [flattenedAll] at hmem
      cases hmem
  | first :: rest, child, hmem => by
      rw [flattenedAll] at hmem
      rcases List.mem_append.mp hmem with hmem | hmem
      · exact isFlat_of_mem_alternatives first child hmem
      · exact isFlat_of_mem_flattenedAll rest child hmem

end

theorem isFlat_flattened (tree : Node γ α) : tree.flattened.IsFlat :=
  isFlat_flattened_of_alternatives (isFlat_of_mem_alternatives tree)

theorem IsFlat.flattened_eq {tree : Node γ α} (h : tree.IsFlat) : tree.flattened = tree := by
  rcases (flattens_flattened tree).cases_head with hsame | ⟨other, hstep, -⟩
  · exact hsame.symm
  · exact absurd hstep (h other)

/-! ## Whole ways -/

section Ways

variable {tree other : Node γ α} (h : ReflTransGen Flattens tree other)
include h

theorem leaves_eq_of_flattens : other.leaves = tree.leaves := by
  induction h with
  | refl => rfl
  | tail _ hstep ih => exact hstep.leaves_eq.trans ih

theorem tick_eq_of_flattens (b : Behaviour γ α κ) (k : κ) : other.tick b k = tree.tick b k := by
  induction h with
  | refl => rfl
  | tail _ hstep ih => exact (hstep.tick_eq b k).trans ih

theorem flattened_eq_of_flattens : other.flattened = tree.flattened := by
  induction h with
  | refl => rfl
  | tail _ hstep ih => exact hstep.flattened_eq.trans ih

end Ways

/-- However branches are taken away, the leaves stay, and with every meaning and from every context
the tree answers alike, leaves the same context and performs the same leaves on the way there.  Each
step takes one branch away, so that the steps come to an end, and they end nowhere but in the
flattened tree. -/
theorem flattening_keeps_meaning (tree : Node γ α) :
    (∀ other, ReflTransGen Flattens tree other →
      other.leaves = tree.leaves ∧
        ∀ (κ : Type) (b : Behaviour γ α κ) (k : κ),
          (other.tick b k).1 = (tree.tick b k).1 ∧ (other.tick b k).2 = (tree.tick b k).2 ∧
            other.executed b k = tree.executed b k) ∧
      (∀ other later : Node γ α, other.Flattens later →
        other.branchCount = later.branchCount + 1) ∧
      ReflTransGen Flattens tree tree.flattened ∧
      ∀ other, ReflTransGen Flattens tree other → (other.IsFlat ↔ other = tree.flattened) := by
  refine ⟨?_, fun _ _ hstep => hstep.branchCount_eq, flattens_flattened tree, ?_⟩
  · intro other hway
    refine ⟨leaves_eq_of_flattens hway, fun κ b k => ?_⟩
    rw [executed, executed, tick_eq_of_flattens hway, tick_eq_of_flattens hway]
    exact ⟨rfl, rfl, rfl⟩
  · intro other hway
    constructor
    · intro hflat
      rw [← hflat.flattened_eq, flattened_eq_of_flattens hway]
    · rintro rfl
      exact isFlat_flattened tree

/-- Empty branches go, and a branch left with one child goes as well. -/
example :
    (Node.priority [.guard 0 (.priority [.priority [], .action "heal"]),
        .priority [.action "buff", .priority [.action "combat"]]] : Node ℕ String).flattened =
      .priority [.guard 0 (.action "heal"), .action "buff", .action "combat"] := by
  decide

end Node

end Encounter
