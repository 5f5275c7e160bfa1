import Mathlib.Data.List.Infix
import Whittle.Proofs.Syntax.Arena

namespace Whittle

namespace Node

theorem push_children (n : Node) (rest : List Node) :
    n.children.reverse.foldl (fun stack c => c :: stack) rest = n.children ++ rest := by
  have pushed : n.children.reverse.foldl (fun stack c => c :: stack) rest =
      (n.children.reverse.map fun c => c).reverse ++ rest := List.foldl_flip_cons_eq_append
  rwa [List.map_id', List.reverse_reverse] at pushed

theorem finish_cons (n : Node) (rest : List Node) (visited : Array Node) :
    (Visits.mk (n :: rest) visited).finish = (Visits.mk (n.children ++ rest) (visited.push n)).finish := by
  rw [Visits.finish]
  simp only [push_children]

-- A visit takes one node off what is still to come, and the induction is on how much that is.
theorem finish_eq (stack : List Node) (visited : Array Node) :
    (Visits.mk stack visited).finish = some (visited ++ (stack.flatMap walk).toArray) := by
  induction left : (stack.flatMap walk).length generalizing stack visited with
  | zero =>
    cases stack with
    | nil => simp [Visits.finish]
    | cons n rest => simp [walk_eq n] at left
  | succ left ih =>
    cases stack with
    | nil => simp at left
    | cons n rest =>
      have opened : (n :: rest).flatMap walk = n :: (n.children ++ rest).flatMap walk := by
        rw [List.flatMap_cons, walk_eq, List.flatMap_append, List.cons_append]
      rw [opened, List.length_cons, Nat.succ_inj] at left
      rw [finish_cons, ih _ _ left, opened]
      simp

theorem walk_infix {n x : Node} (member : x ∈ n.walk) : x.walk <:+: n.walk := by
  induction n using induct with
  | step n ih =>
    rw [walk_eq n] at member ⊢
    rcases List.mem_cons.mp member with rfl | below
    · rw [walk_eq x]
    · obtain ⟨c, child, inside⟩ := List.mem_flatMap.mp below
      obtain ⟨before, after, split⟩ := List.append_of_mem child
      have here : c.walk <:+: n.children.flatMap walk := by
        rw [split, List.flatMap_append, List.flatMap_cons]
        exact ⟨_, _, List.append_assoc _ _ _⟩
      exact ((ih c child inside).trans here).trans (List.suffix_cons _ _).isInfix

-- Wherever the second stands in an order, the first stands before it.
def Precedes (order : List Node) (a d : Node) : Prop := ∀ front back, order = front ++ d :: back → a ∈ front

theorem ownLabels_ne_nil {n : Node} (unshared : n.isShared = false) (inner : ∀ m, n ≠ .module m) :
    ∃ l, l ∈ n.ownLabels := by
  cases n with
  | module m => exact absurd rfl (inner m)
  | mark s => cases unshared
  | _ => exact ⟨_, List.mem_singleton_self _⟩

end Node

open Node

section

variable {m : Module}

theorem Module.unshared_walk_nodup (m : Module) :
    ((Node.module m.number).walk.filter fun n => !n.isShared).Nodup := by
  have apart := (List.nodup_flatMap.mp m.walk_labels_nodup).2
  rw [walk_eq] at apart ⊢
  rw [List.filter_cons_of_pos rfl, List.nodup_cons]
  -- The module has no label to tell it by, but it is below nothing.
  have outer : ∀ x ∈ (Node.module m.number).children.flatMap walk, ∀ other, x ≠ .module other := by
    rintro x below other rfl
    obtain ⟨c, child, inside⟩ := List.mem_flatMap.mp below
    exact ne_module_of_child child other (eq_of_module_mem_walk inside)
  constructor
  · intro again
    exact outer _ (List.mem_of_mem_filter again) _ rfl
  · refine ((List.pairwise_cons.mp apart).2.filter _).imp_of_mem ?_
    rintro x y here - labels rfl
    obtain ⟨below, unshared⟩ := List.mem_filter.mp here
    obtain ⟨l, own⟩ := ownLabels_ne_nil (by simpa using unshared) (outer x below)
    exact labels own own

-- A node that is not shared has one place, so a node found before it there is before it.
theorem Module.precedes_of_split {a d : Node} {front back : List Node}
    (split : (Node.module m.number).walk = front ++ d :: back) (unshared : d.isShared = false) (earlier : a ∈ front) :
    Precedes (Node.module m.number).walk a d := by
  intro front' back' split'
  have once := m.unshared_walk_nodup
  rw [split, List.filter_append, List.filter_cons_of_pos (by rw [unshared]; rfl)] at once
  have absent := List.nodup_append.mp once
  have notBefore : d ∉ front := fun before =>
    absent.2.2 d (List.mem_filter.mpr ⟨before, by rw [unshared]; rfl⟩) d List.mem_cons_self rfl
  have notAfter : d ∉ back := fun after =>
    (List.nodup_cons.mp absent.2.1).1 (List.mem_filter.mpr ⟨after, by rw [unshared]; rfl⟩)
  rw [split] at split'
  rw [← ((List.append_cons_inj_of_notMem notBefore notAfter).mp split').1]
  exact earlier

theorem Module.precedes_descendant {a d : Node} (member : a ∈ (Node.module m.number).walk) (below : d ∈ a.walk)
    (other : d ≠ a) (unshared : d.isShared = false) : Precedes (Node.module m.number).walk a d := by
  obtain ⟨before, after, whole⟩ := walk_infix member
  rw [walk_eq, List.mem_cons] at below
  obtain ⟨front, back, split⟩ := List.append_of_mem (below.resolve_left other)
  have place : (Node.module m.number).walk = (before ++ a :: front) ++ d :: (back ++ after) := by
    rw [← whole, walk_eq, split]
    simp
  exact precedes_of_split place unshared (List.mem_append_right _ List.mem_cons_self)

theorem Module.precedes_sibling {p c d x : Node} (member : p ∈ (Node.module m.number).walk)
    (siblings : [c, d].Sublist p.children) (inside : x ∈ c.walk) (unshared : d.isShared = false) :
    Precedes (Node.module m.number).walk x d := by
  obtain ⟨before, after, whole⟩ := walk_infix member
  obtain ⟨first, second, split, left, right⟩ := List.cons_sublist_iff.mp siblings
  obtain ⟨mid, later, rightSplit⟩ := List.append_of_mem (List.singleton_sublist.mp right)
  have place : (Node.module m.number).walk =
      (before ++ p :: (first ++ mid).flatMap walk) ++ d :: (d.children.flatMap walk ++ later.flatMap walk ++ after) := by
    rw [← whole, walk_eq, split, rightSplit, List.flatMap_append, List.flatMap_append, List.flatMap_cons, walk_eq d]
    simp
  refine precedes_of_split place unshared (List.mem_append_right _ (List.mem_cons_of_mem _ ?_))
  exact List.mem_flatMap.mpr ⟨c, List.mem_append_left _ left, inside⟩

end

namespace Tree

theorem walk_eq_walk (t : Tree) : t.walk = (Node.module t.module).walk := by
  simp [walk, finish_eq]

-- What an order in which the nodes of a module are visited has to be, to go down before it goes on.
structure GoesDown (m : Module) (order : List Node) : Prop where
  nodes : ∀ n, n ∈ order ↔ (Node.module m).Reaches n
  -- Any other node than a shared one is visited once.
  once : (order.filter fun n => !n.isShared).Nodup
  -- A visit is followed by all that is below, shared or not.
  together : ∀ n ∈ order, (n :: n.children.flatMap Node.walk) <:+: order
  ancestors : ∀ a ∈ order, ∀ d, a.Reaches d → d ≠ a → d.isShared = false → Precedes order a d
  siblings : ∀ p ∈ order, ∀ c d, [c, d].Sublist p.children → d.isShared = false →
    ∀ x, c.Reaches x → Precedes order x d

theorem goesDown_walk (m : Module) : GoesDown m.number (Node.module m.number).walk where
  nodes _ := mem_walk_iff_reaches
  once := m.unshared_walk_nodup
  together n member := n.walk_eq ▸ walk_infix member
  ancestors _ member _ below other unshared :=
    Module.precedes_descendant member (mem_walk_iff_reaches.mpr below) other unshared
  siblings _ member _ _ siblings unshared _ inside :=
    Module.precedes_sibling member siblings (mem_walk_iff_reaches.mpr inside) unshared

theorem walk_preorder (t : Tree) (m : Module) :
    -- The loop ends, and with the visits of the recursive traversal, which those who dispatch on nodes follow, too.
    (∀ n : Node, n.walk = n :: n.children.flatMap Node.walk) ∧
    (Node.Visits.mk [.module t.module] #[]).finish = some t.walk.toArray ∧
    t.walk = (Node.module t.module).walk ∧
    (Node.module t.module).located.map Located.node = t.walk ∧
    GoesDown m.number (ofModule m).walk ∧
    -- The arena is filled from a queue, in another order of the same visits.
    ∃ queue, Node.Queued [.module m.number] queue ∧
      (ofModule m).arena = queue.foldl Arena.adopt (queue.foldl Arena.register ⟨#[], {}, {}⟩) ∧
      queue.Perm (ofModule m).walk := by
  have queued := (Node.module m.number).queued_breadthFirst
  refine ⟨Node.walk_eq, ?_, t.walk_eq_walk, ?_, ?_, _, queued, rfl, ?_⟩
  · rw [finish_eq, walk_eq_walk]
    simp
  · rw [map_node_located, walk_eq_walk]
  · rw [walk_eq_walk]
    exact goesDown_walk m
  · have same := queued.perm_walk
    rw [List.flatMap_singleton] at same
    rw [walk_eq_walk]
    exact same

end Tree

end Whittle
