import Encounter.Tree.Basic

/-!
# Transport between contexts

A map of contexts under which conditions hold alike, leaves answer alike and every change of the
context goes with the map, carries whole ticks along: same outcome, and the context mapped.
-/

namespace Encounter

variable {γ α κ κ' : Type}

structure Behaviour.Hom (b : Behaviour γ α κ) (b' : Behaviour γ α κ') (f : κ → κ') : Prop where
  map_holds : ∀ condition k, b'.holds condition (f k) = b.holds condition k
  map_perform : ∀ act k, b'.perform act (f k) = Prod.map id f (b.perform act k)

mutual

theorem Behaviour.Hom.tick_map {b : Behaviour γ α κ} {b' : Behaviour γ α κ'} {f : κ → κ'}
    (h : b.Hom b' f) : ∀ (tree : Node γ α) (k : κ),
      tree.tick b' (f k) = Prod.map id f (tree.tick b k)
  | .guard condition child, k => by
      rw [Node.tick_guard, Node.tick_guard, h.map_holds, h.tick_map child k]
      split <;> rfl
  | .priority children, k => by
      rw [Node.tick_priority, Node.tick_priority]
      exact h.tickFirst_map children k
  | .action act, k => by
      rw [Node.tick_action, Node.tick_action]
      exact h.map_perform act k

theorem Behaviour.Hom.tickFirst_map {b : Behaviour γ α κ} {b' : Behaviour γ α κ'} {f : κ → κ'}
    (h : b.Hom b' f) : ∀ (children : List (Node γ α)) (k : κ),
      Node.tickFirst b' children (f k) = Prod.map id f (Node.tickFirst b children k)
  | [], k => by
      rw [Node.tickFirst_nil, Node.tickFirst_nil]
      rfl
  | child :: rest, k => by
      rw [Node.tickFirst_cons, Node.tickFirst_cons, h.tick_map child k]
      simp only [Prod.map_fst, Prod.map_snd, id_eq]
      rw [h.tickFirst_map rest]
      split <;> rfl

end

end Encounter
