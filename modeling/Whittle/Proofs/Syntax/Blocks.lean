import Whittle.Proofs.Syntax.Traversal
import Whittle.Syntax.Block

namespace Whittle

theorem mapM_eq_some {α β : Type} {f : α → Option β} {g : α → β} {as : List α} (each : ∀ a ∈ as, f a = some (g a)) :
    as.mapM f = some (as.map g) := by
  induction as with
  | nil => rfl
  | cons a rest ih =>
    have tail := ih fun b member => each b (List.mem_cons_of_mem _ member)
    simp [List.mapM_cons, each a List.mem_cons_self, tail]

namespace Handler

def mapBody (f : Block → Block) : Handler → Handler
  | .mk l type name body => .mk l type name (f body)

end Handler

namespace MatchCase

def mapBody (f : Block → Block) : MatchCase → MatchCase
  | .mk l p guard body => .mk l p guard (f body)

end MatchCase

namespace Node

-- Nodes that hold no statement.
def isBlockless : Node → Bool
  | .module _ | .stmt _ | .handler _ | .matchCase _ => false
  | _ => true

theorem isBlockless_of_child {n c : Node} (holds : n.isBlockless) (member : c ∈ n.children) : c.isBlockless := by
  cases n with
  | module m => cases holds
  | stmt s => cases holds
  | handler h => cases holds
  | matchCase c => cases holds
  | expr e =>
    cases e <;> simp [children, Expr.children, ofContext] at member <;> grind [isBlockless]
  | params p =>
    simp [children, Params.children] at member
    grind [isBlockless]
  | pattern p => cases p <;> simp [children, Pattern.children] at member <;> grind [isBlockless]
  | comprehension c =>
    cases c
    simp [children] at member
    grind [isBlockless]
  | param p =>
    obtain ⟨e, -, rfl⟩ := mem_ofOption.mp member
    rfl
  | keyword k =>
    cases List.mem_singleton.mp member
    rfl
  | withItem w =>
    simp [children] at member
    grind [isBlockless]
  | «alias» a => cases member
  | mark m => cases member

theorem isBlockless_of_mem_walk {n x : Node} (holds : n.isBlockless) (member : x ∈ n.walk) : x.isBlockless := by
  induction n using induct with
  | step n ih =>
    rw [walk_eq] at member
    rcases List.mem_cons.mp member with rfl | below
    · exact holds
    · obtain ⟨c, child, inside⟩ := List.mem_flatMap.mp below
      exact ih c child (isBlockless_of_child holds child) inside

theorem below_of_handler {h : Handler} {t : Stmt} (below : .stmt t ∈ (Node.handler h).walk) :
    ∃ u ∈ h.body, .stmt t ∈ (Node.stmt u).walk := by
  cases h with
  | mk l type name body =>
    rw [walk_eq, List.mem_cons, List.mem_flatMap] at below
    obtain same | ⟨c, child, inside⟩ := below
    · cases same
    · rw [children, List.mem_append, mem_ofOption, mem_ofStmts] at child
      obtain ⟨e, -, rfl⟩ | ⟨u, member, rfl⟩ := child
      · cases isBlockless_of_mem_walk (show (Node.expr e).isBlockless from rfl) inside
      · exact ⟨u, member, inside⟩

theorem below_of_case {k : MatchCase} {t : Stmt} (below : .stmt t ∈ (Node.matchCase k).walk) :
    ∃ u ∈ k.body, .stmt t ∈ (Node.stmt u).walk := by
  cases k with
  | mk l p guard body =>
    rw [walk_eq, List.mem_cons, List.mem_flatMap] at below
    obtain same | ⟨c, child, inside⟩ := below
    · cases same
    · rw [children, List.cons_append, List.mem_cons, List.mem_append, mem_ofOption, mem_ofStmts] at child
      obtain rfl | ⟨e, -, rfl⟩ | ⟨u, member, rfl⟩ := child
      · cases isBlockless_of_mem_walk (show (Node.pattern p).isBlockless from rfl) inside
      · cases isBlockless_of_mem_walk (show (Node.expr e).isBlockless from rfl) inside
      · exact ⟨u, member, inside⟩

end Node

namespace Stmt

-- The blocks directly below a statement, in source order.
def blocks : Stmt → List Block
  | .simple .. => []
  | .func _ _ body => [body]
  | .klass _ _ body => [body]
  | .ifElse _ _ body orelse => [body, orelse]
  | .forLoop _ _ _ _ body orelse => [body, orelse]
  | .whileLoop _ _ body orelse => [body, orelse]
  | .withBlock _ _ _ body => [body]
  | .matchOn _ _ cases => cases.map MatchCase.body
  | .tryBlock _ _ body handlers orelse finalbody => body :: handlers.map Handler.body ++ [orelse, finalbody]

def mapBlocks (f : Block → Block) : Stmt → Stmt
  | .simple l s => .simple l s
  | .func l head body => .func l head (f body)
  | .klass l head body => .klass l head (f body)
  | .ifElse l test body orelse => .ifElse l test (f body) (f orelse)
  | .forLoop l isAsync target iter body orelse => .forLoop l isAsync target iter (f body) (f orelse)
  | .whileLoop l test body orelse => .whileLoop l test (f body) (f orelse)
  | .withBlock l isAsync items body => .withBlock l isAsync items (f body)
  | .matchOn l subject cases => .matchOn l subject (cases.map (MatchCase.mapBody f))
  | .tryBlock l isStar body handlers orelse finalbody =>
    .tryBlock l isStar (f body) (handlers.map (Handler.mapBody f)) (f orelse) (f finalbody)

theorem mapBlocksM_eq_some {f : Block → Option Block} {g : Block → Block} {s : Stmt}
    (each : ∀ b ∈ s.blocks, f b = some (g b)) : s.mapBlocksM f = some (s.mapBlocks g) := by
  cases s with
  | matchOn l subject cases =>
    rw [mapBlocksM, mapM_eq_some (g := MatchCase.mapBody g)]
    · rfl
    · intro c member
      have body := each c.body (List.mem_map_of_mem member)
      cases c
      simp_all [MatchCase.body, MatchCase.mapBody]
  | tryBlock l isStar body handlers orelse finalbody =>
    rw [mapBlocksM, mapM_eq_some (g := Handler.mapBody g), each body (by simp [blocks]),
      each orelse (by simp [blocks]), each finalbody (by simp [blocks])]
    · rfl
    · intro h member
      have body := each h.body (by simp [blocks]; grind)
      cases h
      simp_all [Handler.body, Handler.mapBody]
  | _ => simp_all [mapBlocksM, mapBlocks, blocks]

theorem below_of_mem_blocks {s t : Stmt} {b : Block} (block : b ∈ s.blocks) (member : t ∈ b) :
    .stmt t ∈ (Node.stmt s).walk ∧ t.size < s.size := by
  have direct : ∀ {n : Node}, n ∈ s.children → .stmt t ∈ n.children →
      .stmt t ∈ (Node.stmt s).walk ∧ t.size < s.size := by
    intro n child grandchild
    have inner : Node.stmt t ∈ n.walk := Node.mem_walk_of_child grandchild (Node.self_mem_walk _)
    have smaller := Nat.lt_trans (Node.size_child_lt grandchild) (size_child_lt child)
    exact ⟨Node.mem_walk_of_child (n := .stmt s) child inner, smaller⟩
  have child : .stmt t ∈ s.children → .stmt t ∈ (Node.stmt s).walk ∧ t.size < s.size := fun child =>
    ⟨Node.mem_walk_of_child (n := .stmt s) child (Node.self_mem_walk _), size_child_lt child⟩
  cases s with
  | matchOn l subject cases =>
    obtain ⟨c, inside, rfl⟩ := List.mem_map.mp block
    refine direct (n := .matchCase c) (by simp [children, inside]) ?_
    cases c
    simpa [Node.children, MatchCase.body] using member
  | tryBlock l isStar body handlers orelse finalbody =>
    simp only [blocks, List.cons_append, List.mem_cons, List.mem_append, List.mem_map, List.not_mem_nil, or_false]
      at block
    obtain rfl | ⟨h, inside, rfl⟩ | rfl | rfl := block
    · exact child (by simp [children, member])
    · refine direct (n := .handler h) (by simp [children, inside]) ?_
      cases h
      simpa [Node.children, Handler.body] using member
    · exact child (by simp [children, member])
    · exact child (by simp [children, member])
  | simple => exact absurd block List.not_mem_nil
  | _ =>
    simp only [blocks, List.mem_cons, List.not_mem_nil, or_false] at block
    refine child ?_
    simp only [children, List.cons_append, List.mem_cons, List.mem_append, Node.mem_ofStmts]
    grind

theorem mapBlocks_congr {f g : Block → Block} {s : Stmt} (each : ∀ b ∈ s.blocks, f b = g b) :
    s.mapBlocks f = s.mapBlocks g := by
  have done : s.mapBlocksM (fun b => some (f b)) = some (s.mapBlocks g) :=
    mapBlocksM_eq_some fun b block => congrArg some (each b block)
  rw [mapBlocksM_eq_some fun b _ => rfl] at done
  exact Option.some.inj done

theorem mapBlocks_mapBlocks (f g : Block → Block) (s : Stmt) :
    (s.mapBlocks f).mapBlocks g = s.mapBlocks fun b => g (f b) := by
  cases s with
  | matchOn l subject cases =>
    simp only [mapBlocks, List.map_map]
    congr 2
    funext c
    cases c
    rfl
  | tryBlock l isStar body handlers orelse finalbody =>
    simp only [mapBlocks, List.map_map]
    congr 2
    funext h
    cases h
    rfl
  | _ => rfl

theorem mapBlocks_id (s : Stmt) : s.mapBlocks id = s := by
  have handlers : Handler.mapBody id = id := funext fun h => by cases h; rfl
  have cases : MatchCase.mapBody id = id := funext fun c => by cases c; rfl
  cases s <;> simp [mapBlocks, handlers, cases]

-- A child that holds statements is a statement of a block, or a handler or a case around a block.
theorem child_cases {s : Stmt} {c : Node} (child : c ∈ s.children) :
    c.isBlockless ∨ (∃ b ∈ s.blocks, ∃ u ∈ b, c = .stmt u) ∨ (∃ h, c = .handler h ∧ h.body ∈ s.blocks) ∨
      ∃ k, c = .matchCase k ∧ k.body ∈ s.blocks := by
  cases s with
  | simple l simple =>
    left
    cases simple <;> simp [children, Simple.children] at child <;> grind [Node.isBlockless]
  | _ =>
    simp [children] at child
    grind [blocks, Node.isBlockless]

-- The statements at and below a statement are found by going from block to block.
theorem mem_walk_iff {s t : Stmt} :
    .stmt t ∈ (Node.stmt s).walk ↔ t = s ∨ ∃ b ∈ s.blocks, ∃ u ∈ b, .stmt t ∈ (Node.stmt u).walk := by
  constructor
  · intro member
    rw [Node.walk_eq, List.mem_cons, List.mem_flatMap] at member
    obtain same | ⟨c, child, inside⟩ := member
    · exact .inl (Node.stmt.inj same)
    · right
      obtain plain | ⟨b, block, u, member, rfl⟩ | ⟨h, rfl, block⟩ | ⟨k, rfl, block⟩ := child_cases child
      · cases Node.isBlockless_of_mem_walk plain inside
      · exact ⟨b, block, u, member, inside⟩
      · exact ⟨_, block, Node.below_of_handler inside⟩
      · exact ⟨_, block, Node.below_of_case inside⟩
  · rintro (rfl | ⟨b, block, u, member, inside⟩)
    · exact Node.self_mem_walk _
    · exact (Node.walk_sublist (below_of_mem_blocks block member).1).subset inside

end Stmt

theorem Module.mem_walk_iff {m : Module} {t : Stmt} :
    .stmt t ∈ (Node.module m).walk ↔ ∃ s ∈ m.body, .stmt t ∈ (Node.stmt s).walk := by
  rw [Node.walk_eq]
  simp [Node.children, Node.ofStmts]

end Whittle
