import Whittle.Proofs.Syntax.Filling
import Whittle.Proofs.Syntax.Preorder
import Whittle.Proofs.Syntax.Queueing

namespace Whittle

namespace Node

-- A body holds a statement, and a `try` has a handler or a `finally`; other nodes owe nothing.
def isWhole : Node → Bool
  | .stmt (.func _ _ body) | .stmt (.klass _ _ body) | .stmt (.ifElse _ _ body _) | .stmt (.forLoop _ _ _ _ body _)
  | .stmt (.whileLoop _ _ body _) | .stmt (.withBlock _ _ _ body) => !body.isEmpty
  | .stmt (.tryBlock _ _ body handlers _ finalbody) => !body.isEmpty && !(handlers.isEmpty && finalbody.isEmpty)
  | .handler h => !h.body.isEmpty
  | .matchCase c => !c.body.isEmpty
  | _ => true

def isFull : Node → Bool
  | .module m => m.isFull
  | .stmt s => s.isFull
  | .handler h => isFullHandlers [h]
  | .matchCase c => isFullCases [c]
  | _ => true

theorem isFull_of_blockless {n : Node} (holds : n.isBlockless) : n.isFull ∧ n.isWhole := by
  cases n with
  | module | stmt | handler | matchCase => cases holds
  | _ => exact ⟨rfl, rfl⟩

theorem all_isFull_map {α : Type} {form : α → Node} (full : ∀ a, (form a).isFull) (as : List α) :
    (as.map form).all isFull = true := by
  rw [List.all_map]
  exact List.all_eq_true.mpr fun a _ => full a

theorem all_isFull_ofOption (o : Option Expr) : (ofOption o).all isFull = true := by
  cases o <;> rfl

theorem all_isFull_ofStmts (b : Block) : (ofStmts b).all isFull = isFullBlock b := by
  induction b with
  | nil => rfl
  | cons s rest ih => rw [isFullBlock, ← ih]; rfl

theorem all_isFull_handlers (hs : List Handler) : (hs.map .handler).all isFull = isFullHandlers hs := by
  induction hs with
  | nil => rfl
  | cons h rest ih =>
    cases h
    rw [List.map_cons, List.all_cons, ih]
    simp only [isFull, isFullHandlers, Bool.and_true]

theorem all_isFull_cases (cs : List MatchCase) : (cs.map .matchCase).all isFull = isFullCases cs := by
  induction cs with
  | nil => rfl
  | cons c rest ih =>
    cases c
    rw [List.map_cons, List.all_cons, ih]
    simp only [isFull, isFullCases, Bool.and_true]

theorem isFull_eq (n : Node) : n.isFull = (n.isWhole && n.children.all isFull) := by
  have expr : ∀ e : Expr, (Node.expr e).isFull := fun _ => rfl
  have keyword : ∀ k : Keyword, (Node.keyword k).isFull := fun _ => rfl
  have withItem : ∀ w : WithItem, (Node.withItem w).isFull := fun _ => rfl
  cases n with
  | module m => exact (all_isFull_ofStmts m.body).symm
  | stmt s =>
    cases s with
    | simple l form =>
      refine (List.all_eq_true.mpr fun c child => ?_).symm
      obtain here | ⟨b, block, -⟩ | ⟨h, -, block⟩ | ⟨k, -, block⟩ := Stmt.child_cases (s := .simple l form) child
      · exact (isFull_of_blockless here).1
      all_goals exact absurd block List.not_mem_nil
    | func l head body =>
      simp only [isFull, isWhole, children, Stmt.children, Stmt.isFull, List.all_append, List.all_cons, ofExprs,
        all_isFull_map expr, all_isFull_ofOption, all_isFull_ofStmts, Bool.and_true, Bool.true_and]
    | klass l head body =>
      simp only [isFull, isWhole, children, Stmt.children, Stmt.isFull, List.all_append, ofExprs, all_isFull_map expr,
        all_isFull_map keyword, all_isFull_ofStmts, Bool.and_true, Bool.true_and]
    | withBlock l isAsync items body =>
      simp only [isFull, isWhole, children, Stmt.children, Stmt.isFull, List.all_append, all_isFull_map withItem,
        all_isFull_ofStmts, Bool.true_and]
    | matchOn l subject cases => exact (all_isFull_cases cases).symm
    | tryBlock l isStar body handlers orelse finalbody =>
      simp only [isFull, isWhole, children, Stmt.children, Stmt.isFull, List.all_append, all_isFull_ofStmts,
        all_isFull_handlers, Bool.and_assoc, Bool.and_comm, Bool.and_left_comm]
    | _ =>
      simp only [isFull, isWhole, children, Stmt.children, Stmt.isFull, List.all_append, List.all_cons,
        all_isFull_ofStmts, Bool.and_assoc, Bool.true_and]
  | handler h =>
    cases h
    simp only [isFull, isWhole, children, isFullHandlers, Handler.body, List.all_append, all_isFull_ofOption,
      all_isFull_ofStmts, Bool.and_true, Bool.true_and]
  | matchCase c =>
    cases c
    simp only [isFull, isWhole, children, isFullCases, MatchCase.body, List.all_append, List.all_cons,
      all_isFull_ofOption, all_isFull_ofStmts, Bool.and_true, Bool.true_and]
  | _ =>
    refine (List.all_eq_true.mpr fun c child => ?_).symm
    exact (isFull_of_blockless (isBlockless_of_child rfl child)).1

theorem isFull_iff_children (n : Node) : n.isFull ↔ n.isWhole ∧ ∀ c ∈ n.children, c.isFull := by
  rw [isFull_eq, Bool.and_eq_true, List.all_eq_true]

theorem isFull_iff (n : Node) : n.isFull ↔ ∀ x ∈ n.walk, x.isWhole := by
  induction n using induct with
  | step n ih =>
    rw [isFull_iff_children, walk_eq, List.forall_mem_cons]
    refine and_congr_right fun _ => ?_
    simp only [List.mem_flatMap]
    constructor
    · rintro full x ⟨c, child, inside⟩
      exact (ih c child).mp (full c child) x inside
    · intro whole c child
      exact (ih c child).mpr fun x inside => whole x ⟨c, child, inside⟩

end Node

namespace Tree

-- The module as the waiting edits alone leave it, before anything is filled.
def unfilled? (t : Tree) : Option Module :=
  if !t.sharing && t.edits.insertsFresh then
    (t.module.body.mapM (t.edits.visit (t.edits.fuelFor t.module))).map fun blocks => ⟨blocks.flatten⟩
  else
    let fuel := t.edits.fuelFor t.module + t.versions.size
    ((t.module.body.mapM (t.edits.visitShared fuel)).run t.versions).map fun (blocks, v) =>
      ⟨blocks.flatten.map (v.settle fuel)⟩

theorem apply_of_pending {t t' : Tree} {any : Bool} (pending : t.isPending) (applied : t.apply = some (t', any)) :
    ∃ left, t.unfilled? = some left ∧ t'.module = left.fill := by
  rw [apply, pending] at applied
  unfold unfilled?
  split at applied
  · rename_i idle
    cases idle
  · split at applied
    · rename_i fresh
      obtain ⟨m, visited, made⟩ := Option.map_eq_some_iff.mp applied
      obtain ⟨blocks, mapped, filled⟩ := Option.bind_eq_some_iff.mp visited
      cases made
      cases filled
      refine ⟨⟨blocks.flatten⟩, ?_, rfl⟩
      rw [if_pos fresh, mapped]
      rfl
    · rename_i shared
      obtain ⟨⟨m, versions⟩, visited, made⟩ := Option.map_eq_some_iff.mp applied
      obtain ⟨⟨blocks, met⟩, mapped, filled⟩ := Option.bind_eq_some_iff.mp visited
      cases made
      cases filled
      refine ⟨_, ?_, rfl⟩
      rw [if_neg shared]
      exact Option.map_eq_some_iff.mpr ⟨_, mapped, rfl⟩

theorem isFull_of_apply {t t' : Tree} {any : Bool} (held : t.isPending = false → t.module.isFull)
    (applied : t.apply = some (t', any)) : t'.module.isFull := by
  cases pending : t.isPending with
  | false =>
    rw [apply_of_idle pending] at applied
    cases applied
    exact held pending
  | true =>
    obtain ⟨left, -, filled⟩ := apply_of_pending pending applied
    rw [filled]
    exact left.isFull_fill

-- A module is full whenever no edit waits: an edit that empties a block waits, or has been applied and made up for.
theorem held_ask (wreck : Wreck) {t : Tree} (held : t.isPending = false → t.module.isFull) (r : Request) :
    (t.ask wreck r).2.isPending = false → (t.ask wreck r).2.module.isFull := by
  have asked := asked_ask wreck t r
  cases outcome : t.ask wreck r with
  | mk answer t' =>
    rw [outcome] at asked
    cases asked with
    | refused => exact held
    | queued edits waits =>
      intro idle
      cases waits.symm.trans idle
    | seen => exact held
    | applied t' _ applied => exact fun _ => isFull_of_apply held applied
    | endless left forms apply =>
      -- Edits without an end were waiting, and still are.
      intro idle
      subst apply
      simp only [ask, apply_of_idle (t := t) idle] at outcome
      cases outcome

theorem held_askAll (wreck : Wreck) {t : Tree} (held : t.isPending = false → t.module.isFull)
    (requests : List Request) :
    (t.askAll wreck requests).2.isPending = false → (t.askAll wreck requests).2.module.isFull := by
  induction requests generalizing t with
  | nil => exact held
  | cons r rest ih => exact ih (held_ask wreck held r)

-- What an application that ends leaves behind.
structure Mended (before after : Tree) (any : Bool) : Prop where
  whole : ∀ n ∈ after.walk, n.isWhole
  idle : any = false → after.module = before.module
  padded : any → ∃ left, before.unfilled? = some left ∧ BlockPadded left.body after.module.body

-- Edits may empty any block; fillers go into the blocks that must hold a statement and would hold none, and nowhere
-- else.
theorem mended_of_apply {source : List Char} {m : Module} (parsed : Module.parse source = .ok m) (wreck : Wreck)
    (requests : List Request) {after : Tree} {any : Bool}
    (applied : ((ofModule m).askAll wreck requests).2.apply = some (after, any)) :
    Mended ((ofModule m).askAll wreck requests).2 after any := by
  have read : (ofModule m).module.isFull := m.isFull_number.trans (Module.isFull_of_parse parsed)
  have held := held_askAll wreck (fun _ => read) requests
  generalize ((ofModule m).askAll wreck requests).2 = now at applied held ⊢
  have asked := (apply_cases applied).2.1
  subst asked
  constructor
  case whole =>
    have full := isFull_of_apply held applied
    rw [walk_eq_walk]
    exact (Node.isFull_iff (.module after.module)).mp full
  case idle =>
    intro idle
    rw [apply_of_idle idle] at applied
    obtain ⟨rfl, -⟩ := Prod.mk.inj (Option.some.inj applied)
    rfl
  case padded =>
    intro pending
    obtain ⟨left, edited, filled⟩ := apply_of_pending pending applied
    refine ⟨left, edited, ?_⟩
    rw [filled]
    exact padded_fillBlock left.body

def guarding : Module := ⟨[.tryBlock none false [.simple none (.expr (.name none "a" .load))] [] []
  [.simple none (.expr (.name none "b" .load))]]⟩

def guarded : Stmt := .simple (some 1) (.expr (.name (some 2) "a" .load))

def closing : Stmt := .simple (some 3) (.expr (.name (some 4) "b" .load))

theorem parse_guarding : Module.parse "try:\n    a\nfinally:\n    b\n".toList = .ok guarding :=
  Module.parse_of_tokens
    [.word .wTry, .symbol .colon, .newline, .indent, .name "a", .newline, .dedent,
      .word .wFinally, .symbol .colon, .newline, .indent, .name "b", .newline, .dedent, .done]
    rfl (by decide +kernel) rfl

def guardingEdits : List Request := [.remove (.stmt guarded), .remove (.stmt closing)]

theorem isEdit_guarding : ∀ r ∈ guardingEdits, r.IsEdit guarding := by
  have inner : .stmt guarded ∈ (Node.module guarding.number).walk := List.mem_of_getElem? (i := 2) rfl
  have last : .stmt closing ∈ (Node.module guarding.number).walk := List.mem_of_getElem? (i := 5) rfl
  simp only [guardingEdits, List.forall_mem_cons]
  exact ⟨⟨guarded, rfl, inner⟩, ⟨closing, rfl, last⟩, List.forall_mem_nil _⟩

-- Both blocks are emptied by the same application, and both get a filler.
theorem mended_of_apply_guarding :
    ∃ after, ((ofModule guarding).askAll (fun t => (t.module, [])) guardingEdits).2.apply = some (after, true) ∧
      after.module = ⟨[.tryBlock (some 0) false [Stmt.filler] [] [] [Stmt.filler]]⟩ ∧ ∀ n ∈ after.walk, n.isWhole := by
  have queue := askAll_of_edits (t := ofModule guarding) (fun t => (t.module, [])) isEdit_guarding rfl
  have edited : (queued guardingEdits).apply guarding.number =
      some ⟨[.tryBlock (some 0) false [Stmt.filler] [] [] [Stmt.filler]]⟩ := rfl
  obtain ⟨after, applied, module, -⟩ :=
    apply_of_fresh (t := { ofModule guarding with edits := queued guardingEdits }) rfl rfl rfl edited
  have applied : ((ofModule guarding).askAll (fun t => (t.module, [])) guardingEdits).2.apply = some (after, true) :=
    queue ▸ applied
  exact ⟨after, applied, module, (mended_of_apply parse_guarding _ _ applied).whole⟩

end Tree

end Whittle
