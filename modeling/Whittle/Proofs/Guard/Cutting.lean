import Whittle.Proofs.Guard.Rewriting
import Whittle.Proofs.Syntax.Survival

namespace Whittle

section Test

variable (cuts : Cuts) (f : Label → Label)

theorem Expr.chain_trim (e : Expr) : (e.trim cuts f).chain? = e.chain? := by
  cases e with
  | «attribute» l value attr ctx => rw [Expr.trim, chain?, chain?, chain_trim value]
  | _ => rfl

theorem Expr.dottedName_trim (e : Expr) : (e.trim cuts f).dottedName? = e.dottedName? := by
  rw [dottedName?, dottedName?, chain_trim]

theorem Expr.integer_trim (e : Expr) : (e.trim cuts f).integer? = e.integer? := by
  cases e with
  | constant l value => cases value <;> rfl
  | _ => rfl

theorem Comparison.of_trim (constant : String) (e : Expr) : of? constant (e.trim cuts f) = of? constant e := by
  cases e with
  | compare l left ops comparators =>
    match ops, comparators with
    | [op], [right] => simp only [Expr.trim, trimExprs, of?, Expr.dottedName_trim, Expr.integer_trim]
    | [], [] | [], _ :: _ | _ :: _ :: _, [] | [_], [] | _ :: _ :: _, _ :: _ | [_], _ :: _ :: _ => rfl
  | _ => rfl

end Test

namespace Verdicts

-- What is known of a test does not depend on labels and on arguments that a cut drops.
def Blind (v : Verdicts) : Prop := ∀ (cuts : Cuts) (f : Label → Label) (test : Expr), v (test.trim cuts f) = v test

theorem blind_ofTarget (constant : String) (target : Int) : (ofTarget constant target).Blind := by
  intro cuts f test
  rw [ofTarget, Comparison.of_trim, ofTarget]

def unknown : Verdicts := fun _ => none

theorem blind_unknown : unknown.Blind := fun _ _ _ => rfl

theorem decide_cut {v : Verdicts} (blind : v.Blind) (cuts : Cuts) (test : Expr) (orelse : Block) :
    v.decide (test.cut cuts) (cutBlock cuts orelse) = v.decide test orelse := by
  have empty : (cutBlock cuts orelse).isEmpty = orelse.isEmpty := by cases orelse <;> rfl
  rw [decide, decide, empty, Expr.cut_eq_trim, blind]

end Verdicts

section Prune

variable {v : Verdicts} (cuts : Cuts)

theorem cutBlock_eq (b : Block) : cutBlock cuts b = b.map (Stmt.cut cuts) := by
  induction b with
  | nil => rfl
  | cons s rest ih => rw [cutBlock, ih, List.map_cons]

theorem cutBlock_append (front back : Block) :
    cutBlock cuts (front ++ back) = cutBlock cuts front ++ cutBlock cuts back := by
  simp only [cutBlock_eq, List.map_append]

theorem Stmt.label_cut (s : Stmt) : (s.cut cuts).label = s.label := by
  cases s <;> rfl

theorem Stmt.verdict_cut (blind : v.Blind) (s : Stmt) : (s.cut cuts).verdict? v = s.verdict? v := by
  cases s with
  | ifElse l test body orelse => exact Verdicts.decide_cut blind cuts test orelse
  | _ => rfl

theorem Stmt.hoisted_cut (blind : v.Blind) (s : Stmt) : (s.cut cuts).hoisted v = cutBlock cuts (s.hoisted v) := by
  cases s with
  | ifElse l test body orelse =>
    rw [Stmt.cut, hoisted, hoisted, Verdicts.decide_cut blind]
    split <;> rfl
  | _ => rfl

mutual

theorem Stmt.prune_cut (blind : v.Blind) (s : Stmt) : (s.cut cuts).prune v = cutBlock cuts (s.prune v) := by
  cases s with
  | ifElse l test body orelse =>
    simp only [Stmt.cut, Stmt.prune, Verdicts.decide_cut blind, pruneBlock_cut blind body, pruneBlock_cut blind orelse]
    split <;> rfl
  | matchOn l subject cases => simp only [Stmt.cut, Stmt.prune, cutBlock, pruneCases_cut blind cases]
  | tryBlock l isStar body handlers orelse finalbody =>
    simp only [Stmt.cut, Stmt.prune, cutBlock, pruneBlock_cut blind body, pruneHandlers_cut blind handlers,
      pruneBlock_cut blind orelse, pruneBlock_cut blind finalbody]
  | _ => simp only [Stmt.cut, Stmt.prune, cutBlock, pruneBlock_cut blind]

theorem pruneBlock_cut (blind : v.Blind) (b : List Stmt) :
    pruneBlock v (cutBlock cuts b) = cutBlock cuts (pruneBlock v b) := by
  match b with
  | [] => rfl
  | s :: rest => rw [cutBlock, pruneBlock, s.prune_cut blind, pruneBlock_cut blind rest, pruneBlock, cutBlock_append]

theorem pruneHandlers_cut (blind : v.Blind) (hs : List Handler) :
    pruneHandlers v (cutHandlers cuts hs) = cutHandlers cuts (pruneHandlers v hs) := by
  match hs with
  | [] => rfl
  | .mk l type name body :: rest =>
    rw [cutHandlers, pruneHandlers, pruneBlock_cut blind body, pruneHandlers_cut blind rest, pruneHandlers, cutHandlers]

theorem pruneCases_cut (blind : v.Blind) (cs : List MatchCase) :
    pruneCases v (cutCases cuts cs) = cutCases cuts (pruneCases v cs) := by
  match cs with
  | [] => rfl
  | .mk l p guard body :: rest =>
    rw [cutCases, pruneCases, pruneBlock_cut blind body, pruneCases_cut blind rest, pruneCases, cutCases]

end

theorem Module.prune_cut (blind : v.Blind) (m : Module) : (m.cut cuts).prune v = (m.prune v).cut cuts :=
  congrArg Module.mk (pruneBlock_cut cuts blind m.body)

end Prune

theorem Module.mem_walk_cut {m : Module} {cuts : Cuts} {s : Stmt} (member : .stmt s ∈ (Node.module (m.cut cuts)).walk) :
    ∃ t, .stmt t ∈ (Node.module m).walk ∧ s = t.cut cuts := by
  rw [cut_eq_trim, ← Node.map_node_located] at member
  obtain ⟨x, located, node⟩ := List.mem_map.mp member
  obtain ⟨y, before, rfl⟩ := Node.mem_locate_trim (n := .module m) cuts id [] located
  have inside : y.node ∈ (Node.module m).walk := by
    rw [← Node.map_node_located]
    exact List.mem_map_of_mem before
  obtain ⟨n, above⟩ := y
  cases n with
  | stmt t =>
    refine ⟨t, inside, ?_⟩
    rw [t.cut_eq_trim]
    exact (Node.stmt.inj node).symm
  | _ => cases node

namespace Edits

theorem before_cut (e : Edits) (cuts : Cuts) (l : Label) : (e.cut cuts).before l = cutBlock cuts (e.before l) := by
  have found : ∀ n, (e.cut cuts).inserted.lookup n = (e.inserted.lookup n).map (cutBlock cuts) := by
    intro n
    unfold Edits.cut
    dsimp only
    induction e.inserted with
    | nil => rfl
    | cons entry rest ih =>
      rw [List.map_cons, List.lookup_cons, List.lookup_cons, ih]
      split <;> rfl
  cases l with
  | none => rfl
  | some n =>
    rw [before, before, found]
    cases e.inserted.lookup n <;> rfl

theorem Follows.cut {e : Edits} {v : Verdicts} {s : Stmt} (follows : e.Follows v s) (blind : v.Blind) (cuts : Cuts) :
    (e.cut cuts).Follows v (s.cut cuts) where
  removed := by
    rw [s.label_cut, s.verdict_cut cuts blind]
    exact follows.removed
  before := by rw [before_cut, s.label_cut, follows.before, s.hoisted_cut cuts blind]

end Edits

-- The edits were queued before anything was cut.
theorem Engine.finish_cut {v : Verdicts} (blind : v.Blind) (m : Module) (cuts : Cuts) (ambient : Ambient) :
    finish m.number { ambient := ambient, edits := .ofGuards (m.number.guards v), cuts := cuts } =
      .ok ((m.number.cut cuts).prune v).fill := by
  have follows : ∀ s, .stmt s ∈ (Node.module (m.number.cut cuts)).walk →
      ((Edits.ofGuards (m.number.guards v)).cut cuts).Follows v s := by
    intro s member
    obtain ⟨t, inside, rfl⟩ := Module.mem_walk_cut member
    exact (Edits.follows_ofGuards m v inside).cut blind cuts
  rw [finish, Edits.apply_eq_prune follows]

end Whittle
