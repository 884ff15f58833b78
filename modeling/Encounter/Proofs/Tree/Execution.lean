import Encounter.Proofs.Tree.Transport
import Mathlib.Data.Nat.Notation

/-!
# What a tree performs

The leaves that a tick performs are seen by a behaviour that notes them down, each with its answer,
and otherwise does as before.  One value may stand at several leaves, so the leaves are numbered
from left to right to tell what is performed where.  `Account` is what the notes of every tick come
to: vain deeds and then, unless the tick fails, one that is not.
-/

namespace Encounter

variable {γ α β κ : Type}

/-- A leaf that was performed, and its answer. -/
structure Deed (α : Type) where
  act : α
  status : Status
  deriving DecidableEq, Repr

def Deed.relabel (f : β → α) (deed : Deed β) : Deed α :=
  { act := f deed.act, status := deed.status }

namespace Behaviour

/-- Notes down every leaf that is performed. -/
def noting (b : Behaviour γ α κ) : Behaviour γ α (κ × List (Deed α)) where
  holds condition k := b.holds condition k.1
  perform act k :=
    let (status, k') := b.perform act k.1
    (status, k', k.2 ++ [{ act, status }])

/-- Performs leaves as `b` performs what `f` makes of them. -/
def relabelled (b : Behaviour γ α κ) (f : β → α) : Behaviour γ β κ where
  holds := b.holds
  perform act := b.perform (f act)

/-- Performs leaves one after the other, whatever they answer. -/
def performAll (b : Behaviour γ α κ) : List α → κ → List Status × κ
  | [], k => ([], k)
  | act :: rest, k =>
      let (status, k') := b.perform act k
      let (statuses, k'') := b.performAll rest k'
      (status :: statuses, k'')

/-- Notes are made of what `f` makes of a leaf as they are made of the leaf. -/
theorem hom_noting (b : Behaviour γ α κ) (f : β → α) :
    (b.relabelled f).noting.Hom (b.noting.relabelled f)
      (Prod.map id (List.map (Deed.relabel f))) where
  map_holds _ _ := rfl
  map_perform act k := by
    simp [noting, relabelled, Deed.relabel]

/-- The deeds lead from a context to an answer; only the last of them may not be in vain. -/
inductive Account (b : Behaviour γ α κ) : κ → List (Deed α) → Status × κ → Prop
  | none (k : κ) : Account b k [] (.failure, k)
  | last {act : α} {k k' : κ} {status : Status} (hact : b.perform act k = (status, k'))
      (hstatus : status ≠ .failure) : Account b k [{ act, status }] (status, k')
  | vain {act : α} {k k' : κ} {rest : List (Deed α)} {answer : Status × κ}
      (hact : b.perform act k = (.failure, k')) (hrest : Account b k' rest answer) :
      Account b k ({ act, status := .failure } :: rest) answer

namespace Account

variable {b : Behaviour γ α κ} {k : κ} {deeds : List (Deed α)} {answer : Status × κ}

theorem append {second : List (Deed α)} {answer' : Status × κ} (h : Account b k deeds answer)
    (hfailed : answer.1 = .failure) (hsecond : Account b answer.2 second answer') :
    Account b k (deeds ++ second) answer' := by
  induction h with
  | none k => exact hsecond
  | last _ hstatus => exact absurd hfailed hstatus
  | vain hact _ ih => exact .vain hact (ih hfailed hsecond)

theorem status_eq (h : Account b k deeds answer) :
    answer.1 = (deeds.getLast?.map Deed.status).getD .failure := by
  induction h with
  | none k => rfl
  | last _ _ => rfl
  | @vain act _ _ rest answer _ _ ih =>
      rw [ih]
      cases rest with
      | nil => rfl
      | cons deed rest => rw [List.getLast?_cons_cons]

theorem failure_of_mem_dropLast (h : Account b k deeds answer) :
    ∀ deed ∈ deeds.dropLast, deed.status = .failure := by
  induction h with
  | none k => simp
  | last _ _ => simp
  | @vain act _ _ rest answer _ _ ih =>
      cases rest with
      | nil => simp
      | cons deed rest =>
          rw [List.dropLast_cons_cons]
          intro other hmem
          rcases List.mem_cons.mp hmem with rfl | hmem
          · rfl
          · exact ih other hmem

theorem performAll_eq (h : Account b k deeds answer) :
    b.performAll (deeds.map Deed.act) k = (deeds.map Deed.status, answer.2) := by
  induction h with
  | none k => rfl
  | last hact _ => simp [performAll, hact]
  | vain hact _ ih => simp [performAll, hact, ih]

end Account

end Behaviour

namespace Node

/-! ## Numbered leaves -/

mutual

def numberFrom (n : ℕ) : Node γ α → Node γ (α × ℕ)
  | .guard condition child => .guard condition (child.numberFrom n)
  | .priority children => .priority (numberAllFrom n children)
  | .action act => .action (act, n)

def numberAllFrom (n : ℕ) : List (Node γ α) → List (Node γ (α × ℕ))
  | [] => []
  | child :: rest => child.numberFrom n :: numberAllFrom (n + child.leaves.length) rest

end

/-- The tree with its leaves numbered from left to right. -/
def numbered (tree : Node γ α) : Node γ (α × ℕ) :=
  tree.numberFrom 0

mutual

theorem leaves_numberFrom : ∀ (n : ℕ) (tree : Node γ α),
    (tree.numberFrom n).leaves = tree.leaves.zipIdx n
  | n, .guard condition child => by
      rw [numberFrom, leaves, leaves]
      exact leaves_numberFrom n child
  | n, .priority children => by
      rw [numberFrom, leaves, leaves]
      exact leavesOf_numberAllFrom n children
  | n, .action act => by
      rw [numberFrom, leaves, leaves]
      rfl

theorem leavesOf_numberAllFrom : ∀ (n : ℕ) (children : List (Node γ α)),
    leavesOf (numberAllFrom n children) = (leavesOf children).zipIdx n
  | n, [] => by
      rw [numberAllFrom, leavesOf, leavesOf, List.zipIdx_nil]
  | n, child :: rest => by
      rw [numberAllFrom, leavesOf, leavesOf, leaves_numberFrom n child,
        leavesOf_numberAllFrom _ rest, List.zipIdx_append]

end

mutual

theorem tick_numberFrom (b : Behaviour γ α κ) : ∀ (n : ℕ) (tree : Node γ α) (k : κ),
    (tree.numberFrom n).tick (b.relabelled Prod.fst) k = tree.tick b k
  | n, .guard condition child, k => by
      rw [numberFrom, tick_guard, tick_guard, tick_numberFrom b n child k]
      rfl
  | n, .priority children, k => by
      rw [numberFrom, tick_priority, tick_priority]
      exact tickFirst_numberAllFrom b n children k
  | n, .action act, k => by
      rw [numberFrom, tick_action, tick_action]
      rfl

theorem tickFirst_numberAllFrom (b : Behaviour γ α κ) :
    ∀ (n : ℕ) (children : List (Node γ α)) (k : κ),
      tickFirst (b.relabelled Prod.fst) (numberAllFrom n children) k = tickFirst b children k
  | n, [], k => by
      rw [numberAllFrom, tickFirst_nil, tickFirst_nil]
  | n, child :: rest, k => by
      rw [numberAllFrom, tickFirst_cons, tickFirst_cons, tick_numberFrom b n child k,
        tickFirst_numberAllFrom b _ rest]

end

/-! ## The notes of one tick -/

/-- The leaves that one tick performs, with their answers, in order. -/
def executed (b : Behaviour γ α κ) (tree : Node γ α) (k : κ) : List (Deed α) :=
  (tree.tick b.noting (k, [])).2.2

/-- What a tick that answers with `answer` notes down, when it starts from `k` and there are
`leaves` to be performed. -/
structure Notes (b : Behaviour γ α κ) (leaves : List α) (k : κ) (answer : Status × κ)
    (deeds : List (Deed α)) : Prop where
  account : b.Account k deeds answer
  sublist : (deeds.map Deed.act).Sublist leaves
  prefix_of_open : (∀ condition k, b.holds condition k = true) →
    deeds.map Deed.act <+: leaves ∧ (answer.1 = .failure → deeds.map Deed.act = leaves)

section Notes

variable {b : Behaviour γ α κ} {leaves rest : List α} {k : κ} {answer answer' : Status × κ}
variable {deeds second : List (Deed α)}

theorem notes_of_perform (b : Behaviour γ α κ) (act : α) (k : κ) :
    Notes b [act] k (b.perform act k) [{ act, status := (b.perform act k).1 }] where
  account := by
    rcases hact : b.perform act k with ⟨status, k'⟩
    by_cases hstatus : status = .failure
    · subst hstatus
      exact .vain hact (.none k')
    · exact .last hact hstatus
  sublist := List.Sublist.refl _
  prefix_of_open _ := ⟨List.prefix_rfl, fun _ => rfl⟩

theorem Notes.append (h : Notes b leaves k answer deeds) (hfailed : answer.1 = .failure)
    (hrest : Notes b rest answer.2 answer' second) :
    Notes b (leaves ++ rest) k answer' (deeds ++ second) where
  account := h.account.append hfailed hrest.account
  sublist := by
    rw [List.map_append]
    exact h.sublist.append hrest.sublist
  prefix_of_open hopen := by
    obtain ⟨hfront, hall⟩ := hrest.prefix_of_open hopen
    rw [List.map_append, (h.prefix_of_open hopen).2 hfailed]
    exact ⟨(List.prefix_append_right_inj leaves).mpr hfront,
      fun hfailed' => congrArg _ (hall hfailed')⟩

theorem Notes.before (h : Notes b leaves k answer deeds) (hended : answer.1 ≠ .failure)
    (rest : List α) : Notes b (leaves ++ rest) k answer deeds where
  account := h.account
  sublist := h.sublist.trans (List.sublist_append_left leaves rest)
  prefix_of_open hopen := by
    refine ⟨(h.prefix_of_open hopen).1.trans (List.prefix_append leaves rest), ?_⟩
    intro hfailed
    exact absurd hfailed hended

end Notes

mutual

/-- Notes are added to those made before and have no part in the tick. -/
theorem exists_notes (b : Behaviour γ α κ) :
    ∀ (tree : Node γ α) (k : κ) (log : List (Deed α)), ∃ deeds,
      tree.tick b.noting (k, log) = ((tree.tick b k).1, (tree.tick b k).2, log ++ deeds) ∧
        Notes b tree.leaves k (tree.tick b k) deeds
  | .guard condition child, k, log => by
      rw [tick_guard, tick_guard, leaves]
      have hgate : b.noting.holds condition (k, log) = b.holds condition k := rfl
      rw [hgate]
      by_cases hopen : b.holds condition k = true
      · rw [if_pos hopen, if_pos hopen]
        exact exists_notes b child k log
      · rw [if_neg hopen, if_neg hopen]
        refine ⟨[], by rw [List.append_nil], .none k, List.nil_sublist _, fun hall => ?_⟩
        exact absurd (hall condition k) hopen
  | .priority children, k, log => by
      rw [tick_priority, tick_priority, leaves]
      exact exists_notes_first b children k log
  | .action act, k, log => by
      rw [tick_action, tick_action, leaves]
      exact ⟨_, rfl, notes_of_perform b act k⟩

theorem exists_notes_first (b : Behaviour γ α κ) :
    ∀ (children : List (Node γ α)) (k : κ) (log : List (Deed α)), ∃ deeds,
      tickFirst b.noting children (k, log) =
          ((tickFirst b children k).1, (tickFirst b children k).2, log ++ deeds) ∧
        Notes b (leavesOf children) k (tickFirst b children k) deeds
  | [], k, log => by
      rw [tickFirst_nil, tickFirst_nil, leavesOf]
      exact ⟨[], by rw [List.append_nil], .none k, List.Sublist.refl _,
        fun _ => ⟨List.prefix_rfl, fun _ => rfl⟩⟩
  | child :: rest, k, log => by
      obtain ⟨deeds, htick, hnotes⟩ := exists_notes b child k log
      rw [tickFirst_cons, tickFirst_cons, leavesOf, htick]
      by_cases hfailed : (child.tick b k).1 = .failure
      -- The rest is ticked with the notes of the child, which is why `log` is any list.
      · obtain ⟨second, hrest, hsecond⟩ :=
          exists_notes_first b rest (child.tick b k).2 (log ++ deeds)
        rw [if_pos hfailed, if_pos hfailed, hrest, List.append_assoc]
        exact ⟨deeds ++ second, rfl, hnotes.append hfailed hsecond⟩
      · rw [if_neg hfailed, if_neg hfailed]
        exact ⟨deeds, rfl, hnotes.before hfailed (leavesOf rest)⟩

end

theorem tick_noting (b : Behaviour γ α κ) (tree : Node γ α) (k : κ) :
    tree.tick b.noting (k, []) = ((tree.tick b k).1, (tree.tick b k).2, tree.executed b k) ∧
      Notes b tree.leaves k (tree.tick b k) (tree.executed b k) := by
  obtain ⟨deeds, htick, hnotes⟩ := exists_notes b tree k []
  have hexecuted : tree.executed b k = deeds := by
    rw [executed, htick, List.nil_append]
  rw [hexecuted]
  exact ⟨htick, hnotes⟩

/-- The leaves of the numbered tree that are performed are those of the tree, with their numbers. -/
theorem executed_numbered (b : Behaviour γ α κ) (tree : Node γ α) (k : κ) :
    (tree.numbered.executed (b.relabelled Prod.fst) k).map (Deed.relabel Prod.fst) =
      tree.executed b k := by
  have htick := (b.hom_noting Prod.fst).tick_map tree.numbered (k, [])
  rw [numbered, Prod.map_apply, List.map_nil, tick_numberFrom b.noting] at htick
  rw [executed, executed]
  exact (congrArg (fun answer => answer.2.2) htick).symm

/-- A tick performs some of the leaves, in their order and each at most once.  All that it performs
but the last fail, the last answers for the tree, and nothing but these leaves, one after the other,
changes the context.  If all conditions hold, none is passed over: the leaves are performed from the
first on, and to the end if the tick fails. -/
theorem tick_executes_leaves (b : Behaviour γ α κ) (tree : Node γ α) (k : κ) :
    let answer := tree.tick b k
    let deeds := tree.executed b k
    let placed := tree.numbered.executed (b.relabelled Prod.fst) k
    tree.tick b.noting (k, []) = (answer.1, answer.2, deeds) ∧
      placed.map (Deed.relabel Prod.fst) = deeds ∧
      (placed.map Deed.act).Sublist tree.leaves.zipIdx ∧
      (placed.map fun deed => deed.act.2).Pairwise (· < ·) ∧
      (∀ deed ∈ deeds.dropLast, deed.status = .failure) ∧
      answer.1 = (deeds.getLast?.map Deed.status).getD .failure ∧
      b.performAll (deeds.map Deed.act) k = (deeds.map Deed.status, answer.2) ∧
      ((∀ condition k, b.holds condition k = true) →
        deeds.map Deed.act <+: tree.leaves ∧
          (answer.1 = .failure → deeds.map Deed.act = tree.leaves)) := by
  intro answer deeds placed
  obtain ⟨htick, hnotes⟩ := tick_noting b tree k
  have hplaced : (placed.map Deed.act).Sublist tree.leaves.zipIdx := by
    rw [← leaves_numberFrom 0 tree]
    exact (tick_noting (b.relabelled Prod.fst) tree.numbered k).2.sublist
  have hplaces : (placed.map fun deed => deed.act.2).Sublist
      (List.range' 0 tree.leaves.length) := by
    have hmap := hplaced.map Prod.snd
    rw [List.map_map, List.zipIdx_map_snd] at hmap
    exact hmap
  exact ⟨htick, executed_numbered b tree k, hplaced,
    (List.pairwise_lt_range' (s := 0)).sublist hplaces, hnotes.account.failure_of_mem_dropLast,
    hnotes.account.status_eq, hnotes.account.performAll_eq, hnotes.prefix_of_open⟩

end Node

end Encounter
