import Mathlib.Data.List.Forall2
import Whittle.Proofs.Syntax.Survival

namespace Whittle

-- What stands for a child.
def hole : Expr := .constant none .none

def holes (es : List Expr) : List Expr := es.map fun _ => hole

def holeOption (o : Option Expr) : Option Expr := o.map fun _ => hole

def DictItem.form : DictItem → DictItem
  | .pair _ _ => .pair hole hole
  | .spread _ => .spread hole

def clauseHoles (cs : List Comprehension) : List Comprehension := cs.map fun _ => .mk none hole hole [] false

def keywordHoles (ks : List Keyword) : List Keyword := ks.map fun _ => .mk none none hole

-- How many positional arguments a call has is left out.
def Expr.form : Expr → Expr
  | .boolOp l op values => .boolOp l op (holes values)
  | .namedExpr l _ _ => .namedExpr l hole hole
  | .binOp l _ op _ => .binOp l hole op hole
  | .unaryOp l op _ => .unaryOp l op hole
  | .lambda l _ _ => .lambda l .empty hole
  | .ifExp l _ _ _ => .ifExp l hole hole hole
  | .dict l items => .dict l (items.map DictItem.form)
  | .set l elts => .set l (holes elts)
  | .comp l kind _ generators => .comp l kind hole (clauseHoles generators)
  | .dictComp l _ _ generators => .dictComp l hole hole (clauseHoles generators)
  | .await l _ => .await l hole
  | .yield l value => .yield l (holeOption value)
  | .yieldFrom l _ => .yieldFrom l hole
  | .compare l _ ops comparators => .compare l hole ops (holes comparators)
  | .call l _ _ keywords => .call l hole [] (keywordHoles keywords)
  | .formatted l _ conversion spec => .formatted l hole conversion (holeOption spec)
  | .joined l values => .joined l (holes values)
  | .constant l value => .constant l value
  | .attribute l _ attr ctx => .attribute l hole attr ctx
  | .subscript l _ _ ctx => .subscript l hole hole ctx
  | .starred l _ ctx => .starred l hole ctx
  | .name l id ctx => .name l id ctx
  | .list l elts ctx => .list l (holes elts) ctx
  | .tuple l elts ctx => .tuple l (holes elts) ctx
  | .slice l lower upper step => .slice l (holeOption lower) (holeOption upper) (holeOption step)

-- The default of a parameter is a child of the parameter list.
def Param.hole (p : Param) : Param := .mk none "" none (holeOption p.default)

def Params.form : Params → Params
  | .mk l posOnly args vararg kwOnly kwarg =>
    .mk l (posOnly.map Param.hole) (args.map Param.hole) (vararg.map Param.hole) (kwOnly.map Param.hole)
      (kwarg.map Param.hole)

def Param.form : Param → Param
  | .mk l name hint _ => .mk l name (holeOption hint) none

def Keyword.form : Keyword → Keyword
  | .mk l name _ => .mk l name hole

def Comprehension.form : Comprehension → Comprehension
  | .mk l _ _ ifs isAsync => .mk l hole hole (holes ifs) isAsync

def WithItem.form (w : WithItem) : WithItem := ⟨w.label, hole, holeOption w.vars⟩

def patternHoles (ps : List Pattern) : List Pattern := ps.map fun _ => .star none none

def Pattern.form : Pattern → Pattern
  | .value l _ => .value l hole
  | .singleton l v => .singleton l v
  | .sequence l ps => .sequence l (patternHoles ps)
  | .mapping l keys ps rest => .mapping l (holes keys) (patternHoles ps) rest
  | .classOf l _ ps attrs kps => .classOf l hole (patternHoles ps) attrs (patternHoles kps)
  | .star l name => .star l name
  | .capture l p name => .capture l (p.map fun _ => .star none none) name
  | .either l ps => .either l (patternHoles ps)

def aliasHoles (names : List Alias) : List Alias := names.map fun _ => ⟨none, "", none⟩

def Simple.form : Simple → Simple
  | .ret value => .ret (holeOption value)
  | .delete targets => .delete (holes targets)
  | .assign targets _ => .assign (holes targets) hole
  | .augAssign _ op _ => .augAssign hole op hole
  | .annAssign _ _ value isSimple => .annAssign hole hole (holeOption value) isSimple
  | .raise exc cause => .raise (holeOption exc) (holeOption cause)
  | .assert _ msg => .assert hole (holeOption msg)
  | .importNames names => .importNames (aliasHoles names)
  | .importFrom module names level => .importFrom module (aliasHoles names) level
  | .expr _ => .expr hole
  | .global names => .global names
  | .nonlocal names => .nonlocal names
  | .pass => .pass
  | .breakLoop => .breakLoop
  | .continueLoop => .continueLoop

def FunctionHead.form (h : FunctionHead) : FunctionHead :=
  { h with params := .empty, decorators := holes h.decorators, returns := holeOption h.returns }

def ClassHead.form (h : ClassHead) : ClassHead :=
  { h with bases := holes h.bases, keywords := keywordHoles h.keywords, decorators := holes h.decorators }

def blockHoles (b : Block) : Block := b.map fun _ => Stmt.filler

def handlerHoles (hs : List Handler) : List Handler := hs.map fun _ => .mk none none none []

def caseHoles (cs : List MatchCase) : List MatchCase := cs.map fun _ => .mk none (.star none none) none []

def Stmt.form : Stmt → Stmt
  | .simple l s => .simple l s.form
  | .func l head body => .func l head.form (blockHoles body)
  | .klass l head body => .klass l head.form (blockHoles body)
  | .ifElse l _ body orelse => .ifElse l hole (blockHoles body) (blockHoles orelse)
  | .forLoop l isAsync _ _ body orelse => .forLoop l isAsync hole hole (blockHoles body) (blockHoles orelse)
  | .whileLoop l _ body orelse => .whileLoop l hole (blockHoles body) (blockHoles orelse)
  | .withBlock l isAsync items body =>
    .withBlock l isAsync (items.map fun _ => ⟨none, hole, none⟩) (blockHoles body)
  | .matchOn l _ cases => .matchOn l hole (caseHoles cases)
  | .tryBlock l isStar body handlers orelse finalbody =>
    .tryBlock l isStar (blockHoles body) (handlerHoles handlers) (blockHoles orelse) (blockHoles finalbody)

def Handler.form : Handler → Handler
  | .mk l type name body => .mk l (holeOption type) name (blockHoles body)

def MatchCase.form : MatchCase → MatchCase
  | .mk l _ guard body => .mk l (.star none none) (holeOption guard) (blockHoles body)

namespace Node

def form : Node → Node
  | .module m => .module ⟨blockHoles m.body⟩
  | .stmt s => .stmt s.form
  | .expr e => .expr e.form
  | .params p => .params p.form
  | .param p => .param p.form
  | .keyword k => .keyword k.form
  | .comprehension c => .comprehension c.form
  | .alias a => .alias a
  | .withItem w => .withItem w.form
  | .handler h => .handler h.form
  | .matchCase c => .matchCase c.form
  | .pattern p => .pattern p.form
  | .mark m => .mark m

-- The second tree is the first one, in which each call has kept of its positional arguments as many as its cut says.
inductive Shortened (cuts : Cuts) : Node → Node → Prop
  | mk {a b : Node} : b.form = a.form → List.Forall₂ (Shortened cuts) (a.kept cuts) b.children → Shortened cuts a b

end Node

section Trim

variable (cuts : Cuts) (f : Label → Label)

theorem holes_trim (es : List Expr) : holes (trimExprs cuts f es) = holes es := by
  rw [trimExprs_eq, holes, List.map_map]
  rfl

theorem holeOption_trim (o : Option Expr) : holeOption (trimOption cuts f o) = holeOption o := by
  cases o <;> rfl

theorem itemForms_trim (items : List DictItem) :
    (trimItems cuts f items).map DictItem.form = items.map DictItem.form := by
  induction items with
  | nil => rfl
  | cons item rest ih => cases item <;> rw [trimItems, List.map_cons, ih] <;> rfl

theorem clauseHoles_trim (cs : List Comprehension) : clauseHoles (trimClauses cuts f cs) = clauseHoles cs := by
  induction cs with
  | nil => rfl
  | cons c rest ih =>
    rw [clauseHoles] at ih
    cases c
    rw [trimClauses, clauseHoles, List.map_cons, ih]
    rfl

theorem keywordHoles_trim (ks : List Keyword) : keywordHoles (trimKeywords cuts f ks) = keywordHoles ks := by
  induction ks with
  | nil => rfl
  | cons k rest ih =>
    rw [keywordHoles] at ih
    cases k
    rw [trimKeywords, keywordHoles, List.map_cons, ih]
    rfl

theorem paramHoles_trim (ps : List Param) :
    (trimParamList cuts f ps).map Param.hole = ps.map Param.hole := by
  rw [trimParamList_eq, List.map_map]
  refine List.map_congr_left fun p _ => ?_
  cases p
  exact congrArg (Param.mk none "" none) (holeOption_trim cuts f _)

theorem paramHole_trim (o : Option Param) : (trimParamOption cuts f o).map Param.hole = o.map Param.hole := by
  cases o with
  | none => rfl
  | some p =>
    cases p
    exact congrArg (fun d => some (Param.mk none "" none d)) (holeOption_trim cuts f _)

theorem patternHoles_trim (ps : List Pattern) : patternHoles (trimPatterns cuts f ps) = patternHoles ps := by
  induction ps with
  | nil => rfl
  | cons p rest ih =>
    rw [patternHoles] at ih
    rw [trimPatterns, patternHoles, List.map_cons, ih]
    rfl

theorem aliasHoles_relabel (names : List Alias) : aliasHoles (names.map (Alias.relabel f)) = aliasHoles names := by
  rw [aliasHoles, List.map_map]
  rfl

theorem blockHoles_trim (b : Block) : blockHoles (trimBlock cuts f b) = blockHoles b := by
  rw [trimBlock_eq, blockHoles, List.map_map]
  rfl

theorem handlerHoles_trim (hs : List Handler) : handlerHoles (trimHandlers cuts f hs) = handlerHoles hs := by
  induction hs with
  | nil => rfl
  | cons h rest ih =>
    rw [handlerHoles] at ih
    cases h
    rw [trimHandlers, handlerHoles, List.map_cons, ih]
    rfl

theorem caseHoles_trim (cs : List MatchCase) : caseHoles (trimCases cuts f cs) = caseHoles cs := by
  induction cs with
  | nil => rfl
  | cons c rest ih =>
    rw [caseHoles] at ih
    cases c
    rw [trimCases, caseHoles, List.map_cons, ih]
    rfl

end Trim

section Cut

variable (cuts : Cuts)

theorem Expr.form_trim (e : Expr) : (e.trim cuts id).form = e.form := by
  cases e <;> simp only [Expr.trim, Expr.form, id_eq, holes_trim, holeOption_trim, itemForms_trim, clauseHoles_trim,
    keywordHoles_trim]

theorem Params.form_trim (p : Params) : (p.trim cuts id).form = p.form := by
  cases p
  simp only [Params.trim, Params.form, id_eq, paramHoles_trim, paramHole_trim]

theorem Pattern.form_trim (p : Pattern) : (p.trim cuts id).form = p.form := by
  cases p with
  | value | singleton | star => rfl
  | capture l inner name => cases inner <;> rfl
  | sequence | either | mapping | classOf =>
    simp only [Pattern.trim, Pattern.form, id_eq, holes_trim, patternHoles_trim]

theorem Simple.form_trim (s : Simple) : (s.trim cuts id).form = s.form := by
  cases s <;> simp only [Simple.trim, Simple.form, holes_trim, holeOption_trim, aliasHoles_relabel]

theorem Stmt.form_trim (s : Stmt) : (s.trim cuts id).form = s.form := by
  cases s <;> simp only [Stmt.trim, Stmt.form, id_eq, Simple.form_trim, FunctionHead.trim, FunctionHead.form,
    ClassHead.trim, ClassHead.form, holes_trim, holeOption_trim, keywordHoles_trim, blockHoles_trim, handlerHoles_trim,
    caseHoles_trim, List.map_map, Function.comp_def]

theorem Node.form_trim (n : Node) : (n.trim cuts id).form = n.form := by
  cases n with
  | module m => exact congrArg (fun b => Node.module ⟨b⟩) (blockHoles_trim cuts id m.body)
  | stmt s => exact congrArg Node.stmt (s.form_trim cuts)
  | expr e => exact congrArg Node.expr (e.form_trim cuts)
  | params p => exact congrArg Node.params (p.form_trim cuts)
  | pattern p => exact congrArg Node.pattern (p.form_trim cuts)
  | param p =>
    cases p
    exact congrArg (fun o => Node.param (.mk _ _ o none)) (holeOption_trim cuts id _)
  | comprehension c =>
    cases c
    exact congrArg (fun es => Node.comprehension (.mk _ hole hole es _)) (holes_trim cuts id _)
  | withItem w => exact congrArg (fun o => Node.withItem ⟨_, hole, o⟩) (holeOption_trim cuts id _)
  | handler h =>
    cases h
    simp only [Node.trim, Handler.trim, form, Handler.form, id_eq, holeOption_trim, blockHoles_trim]
  | matchCase c =>
    cases c
    simp only [Node.trim, MatchCase.trim, form, MatchCase.form, id_eq, holeOption_trim, blockHoles_trim]
  | keyword k => cases k; rfl
  | «alias» a => rfl
  | mark m => rfl

theorem Node.shortened_trim (n : Node) : n.Shortened cuts (n.trim cuts id) := by
  induction n using Node.induct with
  | step n ih =>
    refine .mk (n.form_trim cuts) ?_
    rw [children_trim, List.forall₂_map_right_iff, List.forall₂_same]
    exact fun c member => ih c (kept_subset cuts member)

theorem Module.shortened_cut (m : Module) : (Node.module m).Shortened cuts (.module (m.cut cuts)) := by
  rw [Module.cut_eq_trim]
  exact Node.shortened_trim cuts (.module m)

end Cut

end Whittle
