import Mathlib.Data.List.Perm.Subperm
import Mathlib.Logic.Relation
import Whittle.Proofs.Syntax.Numbering

namespace Whittle.Node

-- Visits from a queue of nodes, until it is empty.
inductive Queued : List Node → List Node → Prop
  | done : Queued [] []
  | visit {n : Node} {rest visited : List Node} : Queued (rest ++ n.children) visited →
    Queued (n :: rest) (n :: visited)

theorem queued_level {visited : List Node} (level later : List Node)
    (below : Queued (later ++ level.flatMap children) visited) : Queued (level ++ later) (level ++ visited) := by
  induction level generalizing later with
  | nil => simpa using below
  | cons n rest ih =>
    have tail : Queued (rest ++ (later ++ n.children)) (rest ++ visited) := by
      apply ih
      simpa using below
    rw [← List.append_assoc] at tail
    exact .visit tail

theorem queued_levels {depth : Nat} {ns : List Node} (enough : ∀ n ∈ ns, n.size < depth) :
    Queued ns (levels depth ns) := by
  induction depth generalizing ns with
  | zero =>
    have empty : ns = [] := List.eq_nil_iff_forall_not_mem.mpr fun n member => Nat.not_lt_zero _ (enough n member)
    subst empty
    exact .done
  | succ depth ih =>
    unfold levels
    split
    · rename_i empty
      rw [List.isEmpty_iff.mp empty]
      exact .done
    · have below : Queued (ns.flatMap children) (levels depth (ns.flatMap children)) := by
        apply ih
        intro c member
        obtain ⟨n, here, child⟩ := List.mem_flatMap.mp member
        have smaller := size_child_lt child
        have bound := enough n here
        omega
      simpa using queued_level ns [] below

theorem queued_breadthFirst (n : Node) : Queued [n] n.breadthFirst := by
  apply queued_levels
  intro x member
  rw [List.mem_singleton.mp member]
  exact Nat.lt_succ_self _

section

variable {ns visited : List Node}

-- As many meetings as there are in a traversal that goes down first.
theorem Queued.perm_walk (queued : Queued ns visited) : visited.Perm (ns.flatMap walk) := by
  induction queued with
  | done => exact .refl _
  | @visit n rest visited _ ih =>
    rw [List.flatMap_cons, walk_eq, List.cons_append]
    rw [List.flatMap_append] at ih
    exact (ih.trans List.perm_append_comm).cons n

-- Whoever is met stood in the queue from the start, or is a child of one that is met.
theorem Queued.perm_children (queued : Queued ns visited) : visited.Perm (ns ++ visited.flatMap children) := by
  induction queued with
  | done => exact .refl _
  | @visit n rest visited _ ih =>
    rw [List.flatMap_cons, List.cons_append, ← List.append_assoc]
    exact ih.cons n

theorem Queued.holder_before (queued : Queued ns visited) {front back : List Node} {c : Node}
    (split : visited = front ++ c :: back) : c ∈ ns ∨ ∃ p ∈ front, c ∈ p.children := by
  induction queued generalizing front with
  | done => simp at split
  | @visit n rest visited _ ih =>
    cases front with
    | nil =>
      rw [List.nil_append, List.cons.injEq] at split
      rw [← split.1]
      exact .inl List.mem_cons_self
    | cons first front =>
      rw [List.cons_append, List.cons.injEq] at split
      obtain ⟨rfl, split⟩ := split
      rcases ih split with waiting | ⟨p, earlier, child⟩
      · rcases List.mem_append.mp waiting with later | below
        · exact .inl (List.mem_cons_of_mem _ later)
        · exact .inr ⟨n, List.mem_cons_self, below⟩
      · exact .inr ⟨p, List.mem_cons_of_mem _ earlier, child⟩

end

-- From a node down to one below it, or itself.
def Reaches : Node → Node → Prop := Relation.ReflTransGen fun n c => c ∈ n.children

theorem mem_walk_iff_reaches {n x : Node} : x ∈ n.walk ↔ n.Reaches x := by
  constructor
  · intro member
    induction n using induct with
    | step n ih =>
      rw [walk_eq] at member
      rcases List.mem_cons.mp member with rfl | below
      · exact .refl
      · obtain ⟨c, child, inside⟩ := List.mem_flatMap.mp below
        exact .head child (ih c child inside)
  · intro reaches
    induction reaches using Relation.ReflTransGen.head_induction_on with
    | refl => exact self_mem_walk x
    | head child _ ih => exact mem_walk_of_child child ih

theorem mem_breadthFirst_iff {n x : Node} : x ∈ n.breadthFirst ↔ x ∈ n.walk := by
  rw [n.queued_breadthFirst.perm_walk.mem_iff, List.flatMap_cons, List.flatMap_nil, List.append_nil]

end Whittle.Node
