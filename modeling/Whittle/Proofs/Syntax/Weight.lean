import Mathlib.Algebra.Order.BigOperators.Group.List
import Mathlib.Algebra.Order.Ring.Nat
import Whittle.Proofs.Guard.Pruning
import Whittle.Proofs.Syntax.Survival
import Whittle.Proofs.Syntax.Unlabelled

namespace Whittle

-- Labels and the statements in a block do not weigh, and a cut makes no node heavier.
structure Weight where
  of : Node → Nat
  relabel : ∀ f n, of (n.trim [] f) = of n
  trim_le : ∀ cuts f n, of (n.trim cuts f) ≤ of n
  stmt : ∀ f s, of (.stmt (s.mapBlocks f)) = of (.stmt s)
  handler : ∀ f h, of (.handler (h.mapBody f)) = of (.handler h)
  case : ∀ f c, of (.matchCase (c.mapBody f)) = of (.matchCase c)
  module : ∀ m, of (.module m) = 0
  filler : of (.stmt Stmt.filler) = 0

namespace Node

theorem sum_children (cuts : Cuts) (n : Node) (g : Node → Nat) :
    (n.children.map g).sum = ((n.kept cuts).map g).sum + ((n.dropped cuts).map g).sum := by
  cases n with
  | expr e =>
    cases e with
    | call l func args keywords =>
      have whole := congrArg ofExprs (cuts.keep_append_drop l args)
      rw [ofExprs_append] at whole
      simp only [children, Expr.children, kept, dropped, ← whole, List.map_cons, List.map_append, List.sum_cons,
        List.sum_append, List.cons_append]
      omega
    | _ => rfl
  | _ => rfl

theorem kept_or_dropped (cuts : Cuts) {n c : Node} (child : c ∈ n.children) :
    c ∈ n.kept cuts ∨ c ∈ n.dropped cuts := by
  cases n with
  | expr e =>
    cases e with
    | call l func args keywords =>
      have whole := congrArg ofExprs (cuts.keep_append_drop l args)
      rw [ofExprs_append] at whole
      simp only [children, Expr.children, ← whole, List.cons_append, List.mem_cons, List.mem_append] at child
      simp only [kept, dropped, List.cons_append, List.mem_cons, List.mem_append]
      tauto
    | _ => exact .inl child
  | _ => exact .inl child

end Node

namespace Weight

variable (w : Weight)

def total (n : Node) : Nat := (n.walk.map w.of).sum

theorem total_eq (n : Node) : w.total n = w.of n + (n.children.map w.total).sum := by
  have below : ∀ ns : List Node, ((ns.flatMap Node.walk).map w.of).sum = (ns.map w.total).sum := by
    intro ns
    induction ns with
    | nil => rfl
    | cons c rest ih =>
      rw [List.flatMap_cons, List.map_append, List.sum_append, ih, List.map_cons, List.sum_cons, total]
  rw [total, Node.walk_eq, List.map_cons, List.sum_cons, below]

theorem le_total {n x : Node} (member : x ∈ n.walk) : w.of x ≤ w.total n :=
  List.le_sum_of_mem (List.mem_map_of_mem member)

section Trim

variable {cuts : Cuts} {f : Label → Label}

theorem total_trim (n : Node) :
    w.total (n.trim cuts f) = w.of (n.trim cuts f) + ((n.kept cuts).map fun c => w.total (c.trim cuts f)).sum := by
  rw [total_eq, Node.children_trim, List.map_map]
  rfl

theorem total_relabel (f : Label → Label) (n : Node) : w.total (n.trim [] f) = w.total n := by
  have same := Node.located_relabel f n
  have walk : (n.trim [] f).walk = n.walk.map (Node.trim [] f) := by
    rw [← Node.map_node_located, same, List.map_map, ← Node.map_node_located, List.map_map]
    rfl
  rw [total, walk, List.map_map]
  exact congrArg List.sum (List.map_congr_left fun x _ => w.relabel f x)

theorem total_trim_le (n : Node) : w.total (n.trim cuts f) ≤ w.total n := by
  induction n using Node.induct with
  | step n ih =>
    have below : ((n.kept cuts).map fun c => w.total (c.trim cuts f)).sum ≤ ((n.kept cuts).map w.total).sum :=
      List.sum_le_sum fun c member => ih c (Node.kept_subset cuts member)
    have own := w.trim_le cuts f n
    rw [total_trim, total_eq, Node.sum_children cuts n]
    omega

-- A node that gets lighter makes the whole lighter, also when it is dropped together with an argument.
theorem total_trim_lt {n x : Node} (member : x ∈ n.walk) (lighter : w.of (x.trim cuts f) < w.of x) :
    w.total (n.trim cuts f) < w.total n := by
  induction n using Node.induct with
  | step n ih =>
    have own := w.trim_le cuts f n
    have each : ∀ c ∈ n.kept cuts, w.total (c.trim cuts f) ≤ w.total c := fun c _ => w.total_trim_le c
    have below := List.sum_le_sum each
    rw [total_trim, total_eq, Node.sum_children cuts n]
    rw [Node.walk_eq, List.mem_cons, List.mem_flatMap] at member
    obtain rfl | ⟨c, child, inside⟩ := member
    · omega
    · obtain stays | goes := Node.kept_or_dropped cuts child
      · have less := List.sum_lt_sum (fun c => w.total (c.trim cuts f)) w.total each ⟨c, stays, ih c child inside⟩
        omega
      · have weighs := w.le_total inside
        have counted : w.total c ≤ ((n.dropped cuts).map w.total).sum := List.le_sum_of_mem (List.mem_map_of_mem goes)
        omega

end Trim

def ofBlock (b : Block) : Nat := (b.map fun s => w.total (.stmt s)).sum

theorem ofBlock_nil : w.ofBlock [] = 0 := rfl

theorem ofBlock_cons (s : Stmt) (b : Block) : w.ofBlock (s :: b) = w.total (.stmt s) + w.ofBlock b := by
  rw [ofBlock, List.map_cons, List.sum_cons, ofBlock]

theorem ofBlock_append (front back : Block) : w.ofBlock (front ++ back) = w.ofBlock front + w.ofBlock back := by
  rw [ofBlock, List.map_append, List.sum_append, ofBlock, ofBlock]

theorem ofBlock_flatMap (g : Stmt → Block) (b : Block) :
    w.ofBlock (b.flatMap g) = (b.map fun s => w.ofBlock (g s)).sum := by
  induction b with
  | nil => rfl
  | cons s rest ih => rw [List.flatMap_cons, ofBlock_append, ih, List.map_cons, List.sum_cons]

theorem sum_ofStmts (b : Block) : ((Node.ofStmts b).map w.total).sum = w.ofBlock b := by
  rw [Node.ofStmts, List.map_map]
  rfl

theorem total_handler (l : Label) (type : Option Expr) (name : Option String) (body : Block) :
    w.total (.handler (.mk l type name body)) = w.total (.handler (.mk l type name [])) + w.ofBlock body := by
  have own : w.of (.handler (.mk l type name body)) = w.of (.handler (.mk l type name [])) :=
    (w.handler (fun _ => []) (.mk l type name body)).symm
  simp only [total_eq w (.handler _), own, Node.children, List.map_append, List.sum_append, sum_ofStmts, ofBlock_nil]
  omega

theorem total_case (l : Label) (p : Pattern) (guard : Option Expr) (body : Block) :
    w.total (.matchCase (.mk l p guard body)) = w.total (.matchCase (.mk l p guard [])) + w.ofBlock body := by
  have own : w.of (.matchCase (.mk l p guard body)) = w.of (.matchCase (.mk l p guard [])) :=
    (w.case (fun _ => []) (.mk l p guard body)).symm
  simp only [total_eq w (.matchCase _), own, Node.children, List.cons_append, List.map_cons, List.sum_cons,
    List.map_append, List.sum_append, sum_ofStmts, ofBlock_nil]
  omega

theorem sum_handlers (hs : List Handler) :
    ((hs.map Node.handler).map w.total).sum =
      (((hs.map (Handler.mapBody fun _ => [])).map Node.handler).map w.total).sum +
        ((hs.map Handler.body).map w.ofBlock).sum := by
  induction hs with
  | nil => rfl
  | cons h rest ih =>
    cases h
    simp only [List.map_cons, List.sum_cons, ih, Handler.mapBody, Handler.body]
    rw [total_handler]
    omega

theorem sum_cases (cs : List MatchCase) :
    ((cs.map Node.matchCase).map w.total).sum =
      (((cs.map (MatchCase.mapBody fun _ => [])).map Node.matchCase).map w.total).sum +
        ((cs.map MatchCase.body).map w.ofBlock).sum := by
  induction cs with
  | nil => rfl
  | cons c rest ih =>
    cases c
    simp only [List.map_cons, List.sum_cons, ih, MatchCase.mapBody, MatchCase.body]
    rw [total_case]
    omega

-- The statement with its blocks empty.
def hollow (s : Stmt) : Stmt := s.mapBlocks fun _ => []

theorem total_stmt (s : Stmt) : w.total (.stmt s) = w.total (.stmt (hollow s)) + (s.blocks.map w.ofBlock).sum := by
  have own : w.of (.stmt (hollow s)) = w.of (.stmt s) := w.stmt _ s
  rw [total_eq, total_eq w (.stmt (hollow s)), own]
  cases s with
  | matchOn l subject cases =>
    have below := w.sum_cases cases
    simp only [hollow, Stmt.mapBlocks, Stmt.blocks, Node.children, Stmt.children, List.map_cons, List.sum_cons]
    omega
  | tryBlock l isStar body handlers orelse finalbody =>
    have below := w.sum_handlers handlers
    simp only [hollow, Stmt.mapBlocks, Stmt.blocks, Node.children, Stmt.children, List.cons_append, List.map_cons,
      List.sum_cons, List.map_append, List.sum_append, sum_ofStmts, ofBlock_nil, List.map_nil, List.sum_nil]
    omega
  | simple => rfl
  | _ =>
    simp only [hollow, Stmt.mapBlocks, Stmt.blocks, Node.children, Stmt.children, List.cons_append, List.map_cons,
      List.sum_cons, List.map_append, List.sum_append, sum_ofStmts, ofBlock_nil, List.map_nil, List.sum_nil]
    omega

section Prune

variable {v : Verdicts}

theorem blocks_mapBlocks (g : Block → Block) (s : Stmt) : (s.mapBlocks g).blocks = s.blocks.map g := by
  cases s with
  | matchOn l subject cases =>
    simp only [Stmt.mapBlocks, Stmt.blocks, List.map_map]
    exact List.map_congr_left fun c _ => by cases c; rfl
  | tryBlock l isStar body handlers orelse finalbody =>
    have bodies : (handlers.map (Handler.mapBody g)).map Handler.body = (handlers.map Handler.body).map g := by
      rw [List.map_map, List.map_map]
      exact List.map_congr_left fun h _ => by cases h; rfl
    simp only [Stmt.mapBlocks, Stmt.blocks, bodies, List.cons_append, List.map_cons, List.map_append, List.map_nil]
  | _ => rfl

theorem total_mapBlocks (g : Block → Block) (s : Stmt) :
    w.total (.stmt (s.mapBlocks g)) = w.total (.stmt (hollow s)) + (s.blocks.map fun b => w.ofBlock (g b)).sum := by
  have same : hollow (s.mapBlocks g) = hollow s := s.mapBlocks_mapBlocks g fun _ => []
  rw [total_stmt, same, blocks_mapBlocks, List.map_map]
  rfl

theorem ofBlock_pruneBlock (b : Block) :
    w.ofBlock (pruneBlock v b) = (b.map fun s => w.ofBlock (s.prune v)).sum := by
  rw [pruneBlock_eq, ofBlock_flatMap]

theorem ofBlock_hoisted_le (s : Stmt) : w.ofBlock (s.hoisted v) ≤ (s.blocks.map w.ofBlock).sum := by
  cases s with
  | ifElse l test body orelse =>
    rw [Stmt.hoisted]
    split <;> simp [Stmt.blocks, ofBlock_nil]
  | _ => exact Nat.zero_le _

theorem ofBlock_prune_le (s : Stmt) : w.ofBlock (s.prune v) ≤ w.total (.stmt s) := by
  induction size : s.size using Nat.strongRecOn generalizing s with
  | ind n ih =>
    subst size
    have below : ∀ b : Block, (∀ t ∈ b, t.size < s.size) → w.ofBlock (pruneBlock v b) ≤ w.ofBlock b := by
      intro b smaller
      rw [ofBlock_pruneBlock]
      exact List.sum_le_sum fun t member => ih _ (smaller t member) t rfl
    rw [total_stmt]
    cases verdict : s.verdict? v with
    | none =>
      have blocks : (s.blocks.map fun b : Block => w.ofBlock (pruneBlock v b)).sum ≤ (s.blocks.map w.ofBlock).sum :=
        List.sum_le_sum fun b block => below b fun t member => (Stmt.below_of_mem_blocks block member).2
      rw [Stmt.prune_of_undecided verdict, ofBlock_cons, total_mapBlocks, ofBlock_nil]
      omega
    | some isNew =>
      have moved : w.ofBlock (pruneBlock v (s.hoisted v)) ≤ w.ofBlock (s.hoisted v) := by
        refine below _ fun t member => ?_
        obtain ⟨b, block, inside⟩ := Stmt.mem_blocks_of_hoisted member
        exact (Stmt.below_of_mem_blocks block inside).2
      have front := w.ofBlock_hoisted_le (v := v) s
      rw [Stmt.prune_of_decided (by simp [verdict])]
      omega

theorem ofBlock_pruneBlock_le (b : Block) : w.ofBlock (pruneBlock v b) ≤ w.ofBlock b := by
  rw [ofBlock_pruneBlock]
  exact List.sum_le_sum fun s _ => w.ofBlock_prune_le s

theorem exists_unsettled {b : Block} (unsettled : isSettledBlock v b = false) : ∃ s ∈ b, s.isSettled v = false := by
  by_contra all
  push Not at all
  have settled := (isSettledBlock_iff v b).mpr fun s member => by simpa using all s member
  simp [settled] at unsettled

theorem sum_prune_lt {b : Block} {s : Stmt} (member : s ∈ b) (lighter : w.ofBlock (s.prune v) < w.total (.stmt s)) :
    w.ofBlock (pruneBlock v b) < w.ofBlock b := by
  rw [ofBlock_pruneBlock]
  exact List.sum_lt_sum _ _ (fun t _ => w.ofBlock_prune_le t) ⟨s, member, lighter⟩

-- What is decided goes away, and with it what it weighs.
theorem ofBlock_prune_lt (heavy : ∀ s : Stmt, (s.verdict? v).isSome → 0 < w.of (.stmt s)) {s : Stmt}
    (unsettled : s.isSettled v = false) : w.ofBlock (s.prune v) < w.total (.stmt s) := by
  induction size : s.size using Nat.strongRecOn generalizing s with
  | ind n ih =>
    subst size
    cases verdict : s.verdict? v with
    | some isNew =>
      have own : 0 < w.total (.stmt (hollow s)) := by
        have weighs := heavy s (by simp [verdict])
        rw [← w.stmt (fun _ => []) s] at weighs
        exact Nat.lt_of_lt_of_le weighs (w.le_total (Node.self_mem_walk _))
      have moved := w.ofBlock_pruneBlock_le (v := v) (s.hoisted v)
      have front := w.ofBlock_hoisted_le (v := v) s
      rw [Stmt.prune_of_decided (by simp [verdict]), total_stmt]
      omega
    | none =>
      obtain ⟨b, block, unsettled⟩ : ∃ b ∈ s.blocks, isSettledBlock v b = false := by
        by_contra all
        push Not at all
        have settled := (s.isSettled_iff v).mpr ⟨verdict, fun b block => by simpa using all b block⟩
        simp [settled] at unsettled
      obtain ⟨t, member, unsettled⟩ := exists_unsettled unsettled
      have lighter := w.sum_prune_lt member (ih _ (Stmt.below_of_mem_blocks block member).2 unsettled rfl)
      have blocks := List.sum_lt_sum (fun b : Block => w.ofBlock (pruneBlock v b)) w.ofBlock
        (fun b _ => w.ofBlock_pruneBlock_le b) ⟨b, block, lighter⟩
      rw [Stmt.prune_of_undecided verdict, ofBlock_cons, total_mapBlocks, ofBlock_nil, total_stmt w s]
      omega

theorem ofBlock_pruneBlock_lt (heavy : ∀ s : Stmt, (s.verdict? v).isSome → 0 < w.of (.stmt s)) {b : Block}
    (unsettled : isSettledBlock v b = false) : w.ofBlock (pruneBlock v b) < w.ofBlock b := by
  obtain ⟨s, member, unsettled⟩ := exists_unsettled unsettled
  exact w.sum_prune_lt member (w.ofBlock_prune_lt heavy unsettled)

end Prune

theorem ofBlock_required (b : Block) : w.ofBlock (required b) = w.ofBlock b := by
  cases b with
  | nil =>
    have light : w.total (.stmt Stmt.filler) = 0 := by
      rw [total_eq, w.filler]
      rfl
    change w.ofBlock [Stmt.filler] = _
    rw [ofBlock_cons, light, Nat.zero_add]
  | cons s rest => rfl

theorem hollow_fill (s : Stmt) : hollow s.fill = hollow s := by
  have handlers : ∀ hs : List Handler,
      (fillHandlers hs).map (Handler.mapBody fun _ => []) = hs.map (Handler.mapBody fun _ => []) := by
    intro hs
    induction hs with
    | nil => rfl
    | cons h rest ih => cases h; rw [fillHandlers, List.map_cons, ih]; rfl
  have cases : ∀ cs : List MatchCase,
      (fillCases cs).map (MatchCase.mapBody fun _ => []) = cs.map (MatchCase.mapBody fun _ => []) := by
    intro cs
    induction cs with
    | nil => rfl
    | cons c rest ih => cases c; rw [fillCases, List.map_cons, ih]; rfl
  cases s <;> simp only [Stmt.fill, hollow, Stmt.mapBlocks, handlers, cases]

mutual

theorem total_fill (s : Stmt) : w.total (.stmt s.fill) = w.total (.stmt s) := by
  rw [total_stmt, hollow_fill, total_stmt w s]
  cases s with
  | matchOn l subject cases => simp only [Stmt.fill, Stmt.blocks, sum_fillCases]
  | tryBlock l isStar body handlers orelse finalbody =>
    simp only [Stmt.fill, Stmt.blocks, List.cons_append, List.map_cons, List.sum_cons, List.map_append, List.sum_append,
      ofBlock_required, ofBlock_fillBlock body, sum_fillHandlers handlers, ofBlock_fillBlock orelse]
    split <;> simp only [ofBlock_required, ofBlock_fillBlock finalbody]
  | _ => simp only [Stmt.fill, Stmt.blocks, List.map_cons, List.sum_cons, ofBlock_required, ofBlock_fillBlock]

theorem ofBlock_fillBlock (b : List Stmt) : w.ofBlock (fillBlock b) = w.ofBlock b := by
  match b with
  | [] => rfl
  | s :: rest => rw [fillBlock, ofBlock_cons, ofBlock_cons, total_fill s, ofBlock_fillBlock rest]

theorem sum_fillHandlers (hs : List Handler) :
    (((fillHandlers hs).map Handler.body).map w.ofBlock).sum = ((hs.map Handler.body).map w.ofBlock).sum := by
  match hs with
  | [] => rfl
  | .mk l type name body :: rest =>
    simp only [fillHandlers, List.map_cons, List.sum_cons, Handler.body, ofBlock_required, ofBlock_fillBlock body,
      sum_fillHandlers rest]

theorem sum_fillCases (cs : List MatchCase) :
    (((fillCases cs).map MatchCase.body).map w.ofBlock).sum = ((cs.map MatchCase.body).map w.ofBlock).sum := by
  match cs with
  | [] => rfl
  | .mk l p guard body :: rest =>
    simp only [fillCases, List.map_cons, List.sum_cons, MatchCase.body, ofBlock_required, ofBlock_fillBlock body,
      sum_fillCases rest]

end

theorem total_module (m : Module) : w.total (.module m) = w.ofBlock m.body := by
  rw [total_eq, w.module, Nat.zero_add]
  exact w.sum_ofStmts m.body

theorem total_number (m : Module) : w.total (.module m.number) = w.total (.module m) := by
  rw [← w.total_relabel noLabel (.module m.number), ← w.total_relabel noLabel (.module m)]
  exact congrArg (fun m => w.total (.module m)) m.unlabelled_number

theorem total_cut_le (cuts : Cuts) (m : Module) : w.total (.module (m.cut cuts)) ≤ w.total (.module m) := by
  rw [Module.cut_eq_trim]
  exact w.total_trim_le (.module m)

theorem total_rewritten_le (v : Verdicts) (m : Module) : w.total (.module (m.prune v).fill) ≤ w.total (.module m) := by
  rw [total_module, total_module, Module.fill, ofBlock_fillBlock]
  exact w.ofBlock_pruneBlock_le m.body

theorem total_rewritten_lt {v : Verdicts} (heavy : ∀ s : Stmt, (s.verdict? v).isSome → 0 < w.of (.stmt s)) {m : Module}
    (unsettled : m.isSettled v = false) : w.total (.module (m.prune v).fill) < w.total (.module m) := by
  rw [total_module, total_module, Module.fill, ofBlock_fillBlock]
  exact w.ofBlock_pruneBlock_lt heavy unsettled

end Weight

end Whittle
