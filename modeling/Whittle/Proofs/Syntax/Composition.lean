import Mathlib.Algebra.Order.Ring.Nat
import Whittle.Proofs.Syntax.Grammar
import Whittle.Proofs.Syntax.Padding

namespace Whittle

open Whittle.Tree (Request)

-- A statement whose own blocks hold what they must hold.
def Stmt.pad : Stmt → Stmt
  | .simple l s => .simple l s
  | .func l head body => .func l head (required body)
  | .klass l head body => .klass l head (required body)
  | .ifElse l test body orelse => .ifElse l test (required body) orelse
  | .forLoop l isAsync target iter body orelse => .forLoop l isAsync target iter (required body) orelse
  | .whileLoop l test body orelse => .whileLoop l test (required body) orelse
  | .withBlock l isAsync items body => .withBlock l isAsync items (required body)
  | .matchOn l subject cases => .matchOn l subject (cases.map (MatchCase.mapBody required))
  | .tryBlock l isStar body handlers orelse finalbody =>
    .tryBlock l isStar (required body) (handlers.map (Handler.mapBody required)) orelse
      (if handlers.isEmpty then required finalbody else finalbody)

variable (requests : List Request)

-- What was put before a statement, in the order of the requests, and the statement unless it was removed.
def replaced (s : Stmt) : Block :=
  requests.flatMap (·.inserts s.label) ++ if requests.any (·.removes s.label) then [] else [s.pad]

mutual

def Stmt.compose : Stmt → Block
  | .simple l s => replaced requests (.simple l s)
  | .func l head body => replaced requests (.func l head (composeBlock body))
  | .klass l head body => replaced requests (.klass l head (composeBlock body))
  | .ifElse l test body orelse => replaced requests (.ifElse l test (composeBlock body) (composeBlock orelse))
  | .forLoop l isAsync target iter body orelse =>
    replaced requests (.forLoop l isAsync target iter (composeBlock body) (composeBlock orelse))
  | .whileLoop l test body orelse => replaced requests (.whileLoop l test (composeBlock body) (composeBlock orelse))
  | .withBlock l isAsync items body => replaced requests (.withBlock l isAsync items (composeBlock body))
  | .matchOn l subject cases => replaced requests (.matchOn l subject (composeCases cases))
  | .tryBlock l isStar body handlers orelse finalbody =>
    replaced requests (.tryBlock l isStar (composeBlock body) (composeHandlers handlers) (composeBlock orelse)
      (composeBlock finalbody))

def composeBlock : List Stmt → List Stmt
  | [] => []
  | s :: rest => s.compose ++ composeBlock rest

def composeHandlers : List Handler → List Handler
  | [] => []
  | .mk l type name body :: rest => .mk l type name (composeBlock body) :: composeHandlers rest

def composeCases : List MatchCase → List MatchCase
  | [] => []
  | .mk l p guard body :: rest => .mk l p guard (composeBlock body) :: composeCases rest

end

def Module.compose (m : Module) : Module := ⟨composeBlock requests m.body⟩

theorem composeBlock_eq (b : Block) : composeBlock requests b = b.flatMap (Stmt.compose requests) := by
  induction b with
  | nil => rfl
  | cons s rest ih => rw [composeBlock, ih, List.flatMap_cons]

theorem composeHandlers_eq (hs : List Handler) :
    composeHandlers requests hs = hs.map (Handler.mapBody (composeBlock requests)) := by
  induction hs with
  | nil => rfl
  | cons h rest ih => cases h; rw [composeHandlers, ih, List.map_cons, Handler.mapBody]

theorem composeCases_eq (cs : List MatchCase) :
    composeCases requests cs = cs.map (MatchCase.mapBody (composeBlock requests)) := by
  induction cs with
  | nil => rfl
  | cons c rest ih => cases c; rw [composeCases, ih, List.map_cons, MatchCase.mapBody]

theorem Stmt.compose_eq (s : Stmt) : s.compose requests = replaced requests (s.mapBlocks (composeBlock requests)) := by
  cases s <;> simp only [compose, mapBlocks, composeHandlers_eq, composeCases_eq]

theorem Stmt.label_mapBlocks (f : Block → Block) (s : Stmt) : (s.mapBlocks f).label = s.label := by
  cases s <;> rfl

theorem fillBlock_eq (b : Block) : fillBlock b = b.map Stmt.fill := by
  induction b with
  | nil => rfl
  | cons s rest ih => rw [fillBlock, ih, List.map_cons]

theorem fillHandlers_eq (hs : List Handler) :
    fillHandlers hs = (hs.map (Handler.mapBody fillBlock)).map (Handler.mapBody required) := by
  induction hs with
  | nil => rfl
  | cons h rest ih => cases h; rw [fillHandlers, ih]; rfl

theorem fillCases_eq (cs : List MatchCase) :
    fillCases cs = (cs.map (MatchCase.mapBody fillBlock)).map (MatchCase.mapBody required) := by
  induction cs with
  | nil => rfl
  | cons c rest ih => cases c; rw [fillCases, ih]; rfl

theorem Stmt.fill_eq (s : Stmt) : s.fill = (s.mapBlocks fillBlock).pad := by
  cases s <;> simp only [fill, mapBlocks, pad, fillHandlers_eq, fillCases_eq, List.isEmpty_map]

-- The statement was read from a text of its own and has no place in a tree yet.
def Stmt.IsNew (u : Stmt) : Prop :=
  ∃ source parsed, Module.parse source = .ok parsed ∧ .stmt u ∈ (Node.module parsed).walk

theorem Stmt.IsNew.unlabelled {u t : Stmt} (new : u.IsNew) (below : .stmt t ∈ (Node.stmt u).walk) : t.label = none := by
  obtain ⟨source, parsed, read, member⟩ := new
  exact ((Module.pristine_of_parse read).sound _ ((Node.walk_sublist member).subset below)).unlabelled

theorem Stmt.IsNew.full {u : Stmt} (new : u.IsNew) : u.isFull := by
  obtain ⟨source, parsed, read, member⟩ := new
  have whole := (Node.isFull_iff (.module parsed)).mp (Module.isFull_of_parse read)
  exact (Node.isFull_iff (.stmt u)).mpr fun n below => whole n ((Node.walk_sublist member).subset below)

namespace Edits

theorem visit_block_flatMap {e : Edits} {fuel : Nat} {b : Block} {g : Stmt → Block}
    (each : ∀ t ∈ b, e.visit fuel t = some (g t)) :
    (do return (← b.mapM (e.visit fuel)).flatten) = some (b.flatMap g) := by
  rw [mapM_eq_some each]
  rfl

theorem visit_succ {e : Edits} {fuel : Nat} {s s' : Stmt} {front : Block}
    (before : (do return (← (e.before s.label).mapM (e.visit fuel)).flatten) = some front)
    (blocks : s.mapBlocksM (fun b => do return (← b.mapM (e.visit fuel)).flatten) = some s') :
    e.visit (fuel + 1) s = some (front ++ if e.isRemoved s.label then [] else [s']) := by
  obtain ⟨visited, mapped, flat⟩ := Option.bind_eq_some_iff.mp before
  cases flat
  rw [visit, mapped, blocks]
  cases e.isRemoved s.label with
  | true => simp
  | false => simp

-- No edit concerns a statement without a label, so it comes out as it went in.
theorem visit_unlabelled {e : Edits} {fuel : Nat} {u : Stmt}
    (unlabelled : ∀ t, .stmt t ∈ (Node.stmt u).walk → t.label = none) (enough : u.size ≤ fuel) :
    e.visit fuel u = some [u] := by
  induction fuel generalizing u with
  | zero => exact absurd enough (Nat.not_le.mpr u.size_pos)
  | succ fuel ih =>
    have blocks : u.mapBlocksM (fun b => do return (← b.mapM (e.visit fuel)).flatten) = some (u.mapBlocks id) := by
      refine Stmt.mapBlocksM_eq_some fun b block => ?_
      have each : ∀ t ∈ b, e.visit fuel t = some [t] := by
        intro t member
        obtain ⟨inside, smaller⟩ := Stmt.below_of_mem_blocks block member
        exact ih (fun x deeper => unlabelled x ((Node.walk_sublist inside).subset deeper)) (by omega)
      rw [visit_block_flatMap each, List.flatMap_singleton']
      rfl
    have none := unlabelled u (Node.self_mem_walk _)
    have front : (do return (← (e.before u.label).mapM (e.visit fuel)).flatten) = some [] := by
      rw [none]
      rfl
    rw [visit_succ front blocks, none, Stmt.mapBlocks_id]
    rfl

-- The queue says of a statement what the requests say.
structure Carries (e : Edits) (requests : List Request) (s : Stmt) : Prop where
  removed : e.isRemoved s.label = requests.any (·.removes s.label)
  before : e.before s.label = requests.flatMap (·.inserts s.label)

variable {requests : List Request}

theorem visitBlock_composes {e : Edits} {fuel : Nat} {b : Block}
    (each : ∀ t ∈ b, ∃ left, e.visit fuel t = some left ∧ fillBlock left = t.compose requests) :
    ∃ left, (do return (← b.mapM (e.visit fuel)).flatten) = some left ∧ fillBlock left = composeBlock requests b := by
  have chosen : ∀ t ∈ b, e.visit fuel t = some ((e.visit fuel t).getD []) := by
    intro t member
    obtain ⟨left, visited, -⟩ := each t member
    rw [visited]
    rfl
  refine ⟨_, visit_block_flatMap chosen, ?_⟩
  rw [fillBlock_eq, List.map_flatMap, composeBlock_eq]
  refine List.flatMap_congr fun t member => ?_
  obtain ⟨left, visited, filled⟩ := each t member
  rw [visited, ← filled, fillBlock_eq]
  rfl

theorem inserts_subset {l : Label} {u : Stmt} (member : u ∈ requests.flatMap (·.inserts l)) :
    ∃ r ∈ requests, u ∈ r.statements := by
  obtain ⟨r, asked, inside⟩ := List.mem_flatMap.mp member
  refine ⟨r, asked, ?_⟩
  cases r with
  | insertBefore stmts anchor =>
    rw [Request.inserts] at inside
    split at inside
    · exact inside
    · cases inside
  | _ => cases inside

-- The fuel pays for the way down to a statement and for what is put before it there.
theorem visit_composes {e : Edits} {fuel total : Nat} {s : Stmt}
    (carried : ∀ t, .stmt t ∈ (Node.stmt s).walk → e.Carries requests t)
    (new : ∀ r ∈ requests, ∀ u ∈ r.statements, u.IsNew) (counted : ∀ l, ∀ u ∈ e.before l, u.size ≤ total)
    (enough : s.size + total ≤ fuel) : ∃ left, e.visit fuel s = some left ∧ fillBlock left = s.compose requests := by
  induction fuel generalizing s with
  | zero =>
    have positive := s.size_pos
    omega
  | succ fuel ih =>
    have positive := s.size_pos
    obtain ⟨removed, before⟩ := carried s (Node.self_mem_walk _)
    have front : (do return (← (e.before s.label).mapM (e.visit fuel)).flatten) = some (e.before s.label) := by
      have each : ∀ u ∈ e.before s.label, e.visit fuel u = some [u] := by
        intro u member
        have size := counted _ u member
        obtain ⟨r, asked, inside⟩ := inserts_subset (before ▸ member)
        exact visit_unlabelled (fun t below => (new r asked u inside).unlabelled below) (by omega)
      rw [visit_block_flatMap each, List.flatMap_singleton']
    have inner : ∀ b ∈ s.blocks, ∃ left, (do return (← b.mapM (e.visit fuel)).flatten) = some left ∧
        fillBlock left = composeBlock requests b := by
      intro b block
      refine visitBlock_composes fun t member => ?_
      obtain ⟨inside, smaller⟩ := Stmt.below_of_mem_blocks block member
      exact ih (fun x deeper => carried x ((Node.walk_sublist inside).subset deeper)) (by omega)
    let visited (b : Block) : Block := ((do return (← b.mapM (e.visit fuel)).flatten : Option Block)).getD []
    have blocks : s.mapBlocksM (fun b => do return (← b.mapM (e.visit fuel)).flatten) = some (s.mapBlocks visited) := by
      refine Stmt.mapBlocksM_eq_some fun b block => ?_
      obtain ⟨left, done, -⟩ := inner b block
      simp only [visited, done, Option.getD_some]
    have filled : (s.mapBlocks visited).fill = (s.mapBlocks (composeBlock requests)).pad := by
      rw [Stmt.fill_eq, Stmt.mapBlocks_mapBlocks]
      refine congrArg Stmt.pad (Stmt.mapBlocks_congr fun b block => ?_)
      obtain ⟨left, done, filled⟩ := inner b block
      simp only [visited, done, Option.getD_some, filled]
    have kept : fillBlock (e.before s.label) = e.before s.label := by
      refine fillBlock_of_full _ ((isFullBlock_iff _).mpr fun u member => ?_)
      obtain ⟨r, asked, inside⟩ := inserts_subset (before ▸ member)
      exact (new r asked u inside).full
    refine ⟨e.before s.label ++ if e.isRemoved s.label then [] else [s.mapBlocks visited], ?_, ?_⟩
    · exact visit_succ front blocks
    · rw [s.compose_eq, replaced, Stmt.label_mapBlocks, ← before, ← removed, fillBlock_eq, List.map_append,
        ← fillBlock_eq, kept]
      split
      · rfl
      · rw [List.map_singleton, filled]

theorem size_add_le_fuelFor (e : Edits) (m : Module) :
    blockSize m.body + (e.inserted.map fun entry => blockSize entry.2).sum ≤ e.fuelFor m := by
  have total : ∀ (entries : List (Nat × Block)) (start : Nat),
      entries.foldl (fun total entry => total + blockSize entry.2) start =
        start + (entries.map fun entry => blockSize entry.2).sum := by
    intro entries
    induction entries with
    | nil => exact fun start => rfl
    | cons first rest ih =>
      intro start
      rw [List.foldl_cons, ih, List.map_cons, List.sum_cons, Nat.add_assoc]
  have fuel := total e.inserted (blockSize m.body + 1)
  change e.fuelFor m = _ at fuel
  omega

theorem size_before_le {e : Edits} {l : Label} {u : Stmt} (member : u ∈ e.before l) :
    u.size ≤ (e.inserted.map fun entry => blockSize entry.2).sum := by
  cases l with
  | none => cases member
  | some n =>
    rw [before] at member
    cases found : e.inserted.lookup n with
    | none => simp [found] at member
    | some stmts =>
      rw [found, Option.getD_some] at member
      obtain ⟨front, back, split, -⟩ := List.lookup_eq_some_iff.mp found
      have size := size_le_blockSize member
      rw [split, List.map_append, List.sum_append, List.map_cons, List.sum_cons]
      dsimp only
      omega

theorem apply_composes {e : Edits} {m : Module} (carried : ∀ s, .stmt s ∈ (Node.module m).walk → e.Carries requests s)
    (new : ∀ r ∈ requests, ∀ u ∈ r.statements, u.IsNew) : e.apply m = some (m.compose requests) := by
  have each : ∀ s ∈ m.body, ∃ left, e.visit (e.fuelFor m) s = some left ∧ fillBlock left = s.compose requests := by
    intro s member
    have child : Node.stmt s ∈ (Node.module m).children := by simpa [Node.children] using member
    have inside : Node.stmt s ∈ (Node.module m).walk := Node.mem_walk_of_child child (Node.self_mem_walk _)
    refine visit_composes (fun t below => carried t ((Node.walk_sublist inside).subset below)) new
      (fun l u member => size_before_le member) ?_
    have size := size_le_blockSize member
    have fuel := e.size_add_le_fuelFor m
    omega
  obtain ⟨left, visited, filled⟩ := visitBlock_composes each
  obtain ⟨blocks, mapped, flat⟩ := Option.bind_eq_some_iff.mp visited
  cases flat
  rw [apply, mapped, Module.compose, ← filled]
  rfl

end Edits

theorem Node.mem_walk_cases {n c : Node} (member : c ∈ n.walk) : c = n ∨ ∃ p ∈ n.walk, c ∈ p.children := by
  induction n using Node.induct with
  | step n ih =>
    rw [walk_eq, List.mem_cons, List.mem_flatMap] at member
    obtain rfl | ⟨first, child, below⟩ := member
    · exact .inl rfl
    · obtain rfl | ⟨p, inside, held⟩ := ih first child below
      · exact .inr ⟨n, n.self_mem_walk, child⟩
      · exact .inr ⟨p, mem_walk_of_child child inside, held⟩

-- Whatever is strictly inside a node is inside it together with its parent.
theorem Module.parent_mem_walk {m : Module} {n p c : Node} (unshared : c.isShared = false)
    (top : n ∈ (Node.module m.number).walk) (holder : p ∈ (Node.module m.number).walk) (child : c ∈ p.children)
    (inside : c ∈ n.walk) (strict : c ≠ n) : p ∈ n.walk := by
  obtain same | ⟨q, within, held⟩ := Node.mem_walk_cases inside
  · exact absurd same strict
  · have here := (Node.walk_sublist top).subset within
    exact Module.eq_of_child unshared holder here child held ▸ within

-- A statement of a block is a child of the statement around it, or of a handler or a case of that one.
theorem Stmt.holder_of_block {s u : Stmt} {b : Block} (block : b ∈ s.blocks) (member : u ∈ b) :
    ∃ p, .stmt u ∈ p.children ∧ (p = .stmt s ∨ p ∈ s.children ∧ ∀ t, p ≠ .stmt t) := by
  cases s with
  | simple => exact absurd block List.not_mem_nil
  | matchOn l subject cases =>
    obtain ⟨c, inside, rfl⟩ := List.mem_map.mp block
    refine ⟨.matchCase c, ?_, .inr ⟨by simp [children, inside], by simp⟩⟩
    cases c
    simpa [Node.children, MatchCase.body] using member
  | tryBlock l isStar body handlers orelse finalbody =>
    simp only [blocks, List.cons_append, List.mem_cons, List.mem_append, List.mem_map, List.not_mem_nil, or_false]
      at block
    obtain rfl | ⟨h, inside, rfl⟩ | rfl | rfl := block
    · exact ⟨_, by simp [Node.children, children, member], .inl rfl⟩
    · refine ⟨.handler h, ?_, .inr ⟨by simp [children, inside], by simp⟩⟩
      cases h
      simpa [Node.children, Handler.body] using member
    · exact ⟨_, by simp [Node.children, children, member], .inl rfl⟩
    · exact ⟨_, by simp [Node.children, children, member], .inl rfl⟩
  | _ =>
    refine ⟨_, ?_, .inl rfl⟩
    simp only [blocks, List.mem_cons, List.not_mem_nil, or_false] at block
    simp only [Node.children, children, List.cons_append, List.mem_cons, List.mem_append, Node.mem_ofStmts]
    grind

theorem Module.around_of_block {m : Module} {s t u : Stmt} {b : Block} (here : .stmt s ∈ (Node.module m.number).walk)
    (there : .stmt t ∈ (Node.module m.number).walk) (block : b ∈ s.blocks) (member : u ∈ b)
    (inside : .stmt u ∈ (Node.stmt t).walk) (strict : u ≠ t) : .stmt s ∈ (Node.stmt t).walk := by
  obtain ⟨p, held, holder⟩ := Stmt.holder_of_block block member
  have apart : Node.stmt u ≠ .stmt t := fun same => strict (Node.stmt.inj same)
  obtain rfl | ⟨child, other⟩ := holder
  · exact parent_mem_walk rfl there here held inside apart
  · have within := Node.mem_walk_of_child (n := .stmt s) child (Node.self_mem_walk p)
    have known := (Node.walk_sublist here).subset within
    have next := parent_mem_walk rfl there known held inside apart
    exact parent_mem_walk (Arena.isShared_of_holder held) there here child next (other t)

theorem flatMap_filter_of_silent {α β : Type} {f : α → List β} {keep : α → Bool} {as : List α}
    (silent : ∀ a ∈ as, keep a = false → f a = []) : (as.filter keep).flatMap f = as.flatMap f := by
  induction as with
  | nil => rfl
  | cons a rest ih =>
    rw [List.forall_mem_cons] at silent
    cases kept : keep a with
    | true => rw [List.filter_cons_of_pos kept, List.flatMap_cons, List.flatMap_cons, ih silent.2]
    | false =>
      rw [List.filter_cons_of_neg (by simp [kept]), List.flatMap_cons, silent.1 kept, List.nil_append, ih silent.2]

namespace Tree

-- No removed statement is strictly around the statement.
def Open (requests : List Request) (s : Stmt) : Prop :=
  ∀ t, .remove (.stmt t) ∈ requests → .stmt s ∈ (Node.stmt t).walk → s = t

-- The request edits strictly inside a statement that is removed.
def Buried (requests : List Request) (r : Request) : Prop :=
  ∃ t u, .remove (.stmt t) ∈ requests ∧ r.target? = some (.stmt u) ∧ .stmt u ∈ (Node.stmt t).walk ∧ u ≠ t

section

variable {m : Module} {requests : List Request}

theorem target_of_label {r : Request} {s : Stmt} (edit : r.IsEdit m) (member : .stmt s ∈ (Node.module m.number).walk)
    (same : r.removes s.label ∨ r.inserts s.label ≠ []) : r.target? = some (.stmt s) := by
  obtain ⟨u, target, known⟩ := edit
  have label : u.label = s.label := by
    cases r with
    | remove n =>
      cases target
      simpa [Request.removes, Request.inserts, Node.label] using same
    | insertBefore stmts anchor =>
      cases target
      by_contra apart
      simp [Request.removes, Request.inserts, Node.label, apart] at same
    | look => cases target
    | apply => cases target
  have owner := Module.eq_of_label known member (List.mem_singleton_self u.label) (label ▸ List.mem_singleton_self _)
  rw [target, owner]

theorem removed_of_mem {s : Stmt} (asked : .remove (.stmt s) ∈ requests) : requests.any (·.removes s.label) :=
  List.any_eq_true.mpr ⟨_, asked, beq_self_eq_true _⟩

theorem Open.below {s u : Stmt} {b : Block} (edits : ∀ r ∈ requests, r.IsEdit m) (free : Open requests s)
    (here : .stmt s ∈ (Node.module m.number).walk) (kept : .remove (.stmt s) ∉ requests) (block : b ∈ s.blocks)
    (member : u ∈ b) : Open requests u := by
  intro t removed inside
  by_contra strict
  obtain ⟨x, target, there⟩ := edits _ removed
  cases target
  have around := Module.around_of_block here there block member inside strict
  cases free t removed around
  exact kept removed

theorem open_of_body {s : Stmt} (edits : ∀ r ∈ requests, r.IsEdit m) (member : s ∈ m.number.body) :
    Open requests s := by
  intro t removed inside
  by_contra strict
  obtain ⟨x, target, there⟩ := edits _ removed
  cases target
  have child : Node.stmt s ∈ (Node.module m.number).children := by simpa [Node.children] using member
  have apart : Node.stmt s ≠ .stmt t := fun same => strict (Node.stmt.inj same)
  have around := Module.parent_mem_walk rfl there (Node.self_mem_walk _) child inside apart
  cases Node.eq_of_module_mem_walk around

variable {keep : Request → Bool}

-- The requests that are left out say nothing of a statement that no removed one is around.
theorem silent_of_open {s : Stmt} (edits : ∀ r ∈ requests, r.IsEdit m)
    (buried : ∀ r ∈ requests, keep r = false → Buried requests r) (free : Open requests s)
    (member : .stmt s ∈ (Node.module m.number).walk) {r : Request} (asked : r ∈ requests) (dropped : keep r = false) :
    r.removes s.label = false ∧ r.inserts s.label = [] := by
  by_contra speaks
  have some : r.removes s.label ∨ r.inserts s.label ≠ [] := by
    cases removes : r.removes s.label with
    | true => exact .inl rfl
    | false => exact .inr fun none => speaks ⟨removes, none⟩
  have target := target_of_label (edits r asked) member some
  obtain ⟨t, u, removed, known, inside, strict⟩ := buried r asked dropped
  cases known.symm.trans target
  exact strict (free t removed inside)

theorem compose_filter {s : Stmt} (edits : ∀ r ∈ requests, r.IsEdit m)
    (buried : ∀ r ∈ requests, keep r = false → Buried requests r) (free : Open requests s)
    (member : .stmt s ∈ (Node.module m.number).walk) : s.compose (requests.filter keep) = s.compose requests := by
  induction size : s.size using Nat.strongRecOn generalizing s with
  | ind n ih =>
    subst size
    have silent := fun r => silent_of_open edits buried free member (r := r)
    have removed : (requests.filter keep).any (·.removes s.label) = requests.any (·.removes s.label) := by
      rw [List.any_filter, Bool.eq_iff_iff, List.any_eq_true, List.any_eq_true]
      refine exists_congr fun r => and_congr_right fun asked => ?_
      cases kept : keep r with
      | true => rw [Bool.true_and]
      | false => rw [(silent r asked kept).1, Bool.false_and]
    have inserted : (requests.filter keep).flatMap (·.inserts s.label) = requests.flatMap (·.inserts s.label) :=
      flatMap_filter_of_silent fun r asked dropped => (silent r asked dropped).2
    rw [Stmt.compose_eq, Stmt.compose_eq, replaced, replaced, Stmt.label_mapBlocks, Stmt.label_mapBlocks, removed,
      inserted]
    cases gone : requests.any (·.removes s.label) with
    | true => rfl
    | false =>
      have kept : .remove (.stmt s) ∉ requests := by
        intro asked
        rw [removed_of_mem asked] at gone
        cases gone
      have same : s.mapBlocks (composeBlock (requests.filter keep)) = s.mapBlocks (composeBlock requests) := by
        refine Stmt.mapBlocks_congr fun b block => ?_
        rw [composeBlock_eq, composeBlock_eq]
        refine List.flatMap_congr fun u inside => ?_
        obtain ⟨below, smaller⟩ := Stmt.below_of_mem_blocks block inside
        have freed := free.below edits member kept block inside
        exact ih u.size smaller freed ((Node.walk_sublist member).subset below) rfl
      rw [same]

end

end Tree

theorem Stmt.compose_nil (s : Stmt) : s.compose [] = [s.fill] := by
  induction size : s.size using Nat.strongRecOn generalizing s with
  | ind n ih =>
    subst size
    have blocks : ∀ b ∈ s.blocks, composeBlock [] b = fillBlock b := by
      intro b block
      rw [composeBlock_eq, fillBlock_eq, List.map_eq_flatMap]
      exact List.flatMap_congr fun u member => ih u.size (below_of_mem_blocks block member).2 u rfl
    rw [compose_eq, replaced, mapBlocks_congr blocks, ← fill_eq]
    rfl

theorem Module.compose_nil (m : Module) : m.compose [] = m.fill := by
  rw [compose, fill, composeBlock_eq, fillBlock_eq, List.map_eq_flatMap]
  exact congrArg Module.mk (List.flatMap_congr fun s _ => s.compose_nil)

namespace Tree

-- Whatever the order of the requests, a statement gives way to what was put before it, followed by itself with its
-- blocks treated likewise unless it was removed.
theorem edits_compose {source : List Char} {m : Module} (parsed : Module.parse source = .ok m) (wreck : Wreck)
    {requests : List Request} (edits : ∀ r ∈ requests, r.IsEdit m)
    (new : ∀ r ∈ requests, ∀ u ∈ r.statements, u.IsNew) :
    (∃ after, ((ofModule m).askAll wreck requests).2.apply = some (after, !requests.isEmpty) ∧
      after.module = m.number.compose requests ∧ after.arena = (ofModule m).arena) ∧
    ∀ keep : Request → Bool, (∀ r ∈ requests, keep r = false → Buried requests r) →
      m.number.compose (requests.filter keep) = m.number.compose requests := by
  constructor
  · have queue := askAll_of_edits (t := ofModule m) wreck edits rfl
    have pending := isPending_queued edits
    rw [queue]
    cases empty : requests.isEmpty with
    | true =>
      cases List.isEmpty_iff.mp empty
      have full : m.number.isFull := m.isFull_number.trans (Module.isFull_of_parse parsed)
      refine ⟨ofModule m, apply_of_idle rfl, ?_, rfl⟩
      rw [Module.compose_nil, Module.fill_of_full full]
      rfl
    | false =>
      rw [empty] at pending
      have fresh : (queued requests).insertsFresh := by
        refine List.all_eq_true.mpr fun entry member => List.all_eq_true.mpr fun u inside => ?_
        obtain ⟨r, asked, listed⟩ := mem_inserted_queued member inside
        rw [(new r asked u listed).unlabelled (Node.self_mem_walk _)]
        rfl
      have carried : ∀ s, .stmt s ∈ (Node.module m.number).walk → (queued requests).Carries requests s := by
        intro s member
        obtain ⟨l, label⟩ := Module.label_eq_some member (List.mem_singleton_self s.label)
        change s.label = some l at label
        exact ⟨label ▸ isRemoved_queued l requests, label ▸ before_queued l requests⟩
      exact apply_of_fresh (t := { ofModule m with edits := queued requests }) pending rfl fresh
        (Edits.apply_composes carried new)
  · intro keep buried
    rw [Module.compose, Module.compose, composeBlock_eq, composeBlock_eq]
    refine congrArg Module.mk (List.flatMap_congr fun s member => ?_)
    have inside : .stmt s ∈ (Node.module m.number).walk := Module.mem_walk_iff.mpr ⟨s, member, Node.self_mem_walk _⟩
    exact compose_filter edits buried (open_of_body edits member) inside

def branching : Module :=
  ⟨[.ifElse none (.name none "a" .load) [.simple none (.expr (.name none "b" .load))] [],
    .whileLoop none (.name none "c" .load) [.simple none (.expr (.name none "d" .load))] []]⟩

theorem parse_branching : Module.parse "if a:\n    b\nwhile c:\n    d\n".toList = .ok branching :=
  Module.parse_of_tokens
    [.word .wIf, .name "a", .symbol .colon, .newline, .indent, .name "b", .newline, .dedent,
      .word .wWhile, .name "c", .symbol .colon, .newline, .indent, .name "d", .newline, .dedent, .done]
    rfl (by decide +kernel) rfl

def branch : Stmt := .simple (some 2) (.expr (.name (some 3) "b" .load))

def turn : Stmt := .simple (some 6) (.expr (.name (some 7) "d" .load))

def loop : Stmt := .whileLoop (some 4) (.name (some 5) "c" .load) [turn] []

def call (name : String) : Stmt := .simple none (.expr (.name none name .load))

-- The loop gives way to two statements, and the removal inside it is in vain.
def branchingEdits : List Request :=
  [.insertBefore [call "y"] (.stmt loop), .remove (.stmt branch), .remove (.stmt loop),
    .insertBefore [call "z"] (.stmt loop), .remove (.stmt turn)]

theorem isEdit_branching : ∀ r ∈ branchingEdits, r.IsEdit branching := by
  have first : .stmt branch ∈ (Node.module branching.number).walk := List.mem_of_getElem? (i := 4) rfl
  have second : .stmt loop ∈ (Node.module branching.number).walk := List.mem_of_getElem? (i := 7) rfl
  have inner : .stmt turn ∈ (Node.module branching.number).walk := List.mem_of_getElem? (i := 10) rfl
  simp only [branchingEdits, List.forall_mem_cons]
  exact ⟨⟨loop, rfl, second⟩, ⟨branch, rfl, first⟩, ⟨loop, rfl, second⟩, ⟨loop, rfl, second⟩, ⟨turn, rfl, inner⟩,
    List.forall_mem_nil _⟩

theorem isNew_branching : ∀ r ∈ branchingEdits, ∀ u ∈ r.statements, u.IsNew := by
  have first : (call "y").IsNew :=
    ⟨"y\n".toList, ⟨[call "y"]⟩, rfl, Module.mem_walk_iff.mpr ⟨_, List.mem_cons_self, Node.self_mem_walk _⟩⟩
  have second : (call "z").IsNew :=
    ⟨"z\n".toList, ⟨[call "z"]⟩, rfl, Module.mem_walk_iff.mpr ⟨_, List.mem_cons_self, Node.self_mem_walk _⟩⟩
  simp [branchingEdits, Request.statements, first, second]

theorem edits_compose_branching :
    (∃ after, ((ofModule branching).askAll (fun t => (t.module, [])) branchingEdits).2.apply = some (after, true) ∧
      after.module = ⟨[.ifElse (some 0) (.name (some 1) "a" .load) [Stmt.filler] [], call "y", call "z"]⟩) ∧
    branching.number.compose (branchingEdits.take 4) = branching.number.compose branchingEdits := by
  obtain ⟨⟨after, applied, module, -⟩, dropped⟩ :=
    edits_compose parse_branching (fun t => (t.module, [])) isEdit_branching isNew_branching
  refine ⟨⟨after, applied, module.trans rfl⟩, dropped (fun r => !r.removes (some 6)) fun r asked out => ?_⟩
  have removes : r.removes (some 6) := by simpa using out
  refine ⟨loop, turn, by simp [branchingEdits], ?_, List.mem_of_getElem? (i := 3) rfl, nofun⟩
  simp only [branchingEdits, List.mem_cons, List.not_mem_nil, or_false] at asked
  obtain rfl | rfl | rfl | rfl | rfl := asked
  all_goals first | rfl | cases removes

end Tree

end Whittle
