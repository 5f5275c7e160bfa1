import Whittle.Syntax.Node

namespace Whittle

abbrev Cuts := List (Nat × Nat)

def Cuts.keep {α : Type} (cuts : Cuts) (l : Label) (args : List α) : List α :=
  match l.bind (List.lookup · cuts) with
  | some n => args.take n
  | none => args

variable (cuts : Cuts)

mutual

def Expr.cut : Expr → Expr
  | .boolOp l op values => .boolOp l op (cutExprs values)
  | .namedExpr l target value => .namedExpr l target.cut value.cut
  | .binOp l left op right => .binOp l left.cut op right.cut
  | .unaryOp l op operand => .unaryOp l op operand.cut
  | .lambda l ps body => .lambda l ps.cut body.cut
  | .ifExp l test body orelse => .ifExp l test.cut body.cut orelse.cut
  | .dict l items => .dict l (cutItems items)
  | .set l elts => .set l (cutExprs elts)
  | .comp l kind elt generators => .comp l kind elt.cut (cutClauses generators)
  | .dictComp l key value generators => .dictComp l key.cut value.cut (cutClauses generators)
  | .await l value => .await l value.cut
  | .yield l value => .yield l (cutOption value)
  | .yieldFrom l value => .yieldFrom l value.cut
  | .compare l left ops comparators => .compare l left.cut ops (cutExprs comparators)
  | .call l func args keywords => .call l func.cut (cuts.keep l (cutExprs args)) (cutKeywords keywords)
  | .formatted l value conversion spec => .formatted l value.cut conversion (cutOption spec)
  | .joined l values => .joined l (cutExprs values)
  | .constant l value => .constant l value
  | .attribute l value attr ctx => .attribute l value.cut attr ctx
  | .subscript l value index ctx => .subscript l value.cut index.cut ctx
  | .starred l value ctx => .starred l value.cut ctx
  | .name l id ctx => .name l id ctx
  | .list l elts ctx => .list l (cutExprs elts) ctx
  | .tuple l elts ctx => .tuple l (cutExprs elts) ctx
  | .slice l lower upper step => .slice l (cutOption lower) (cutOption upper) (cutOption step)

def cutExprs : List Expr → List Expr
  | [] => []
  | e :: rest => e.cut :: cutExprs rest

def cutOption : Option Expr → Option Expr
  | none => none
  | some e => some e.cut

def cutItems : List DictItem → List DictItem
  | [] => []
  | .pair key value :: rest => .pair key.cut value.cut :: cutItems rest
  | .spread value :: rest => .spread value.cut :: cutItems rest

def cutClauses : List Comprehension → List Comprehension
  | [] => []
  | .mk l target iter ifs isAsync :: rest => .mk l target.cut iter.cut (cutExprs ifs) isAsync :: cutClauses rest

def cutKeywords : List Keyword → List Keyword
  | [] => []
  | .mk l name value :: rest => .mk l name value.cut :: cutKeywords rest

def Param.cut : Param → Param
  | .mk l name hint default => .mk l name (cutOption hint) (cutOption default)

def cutParamList : List Param → List Param
  | [] => []
  | p :: rest => p.cut :: cutParamList rest

def cutParamOption : Option Param → Option Param
  | none => none
  | some p => some p.cut

def Params.cut : Params → Params
  | .mk l posOnly args vararg kwOnly kwarg =>
    .mk l (cutParamList posOnly) (cutParamList args) (cutParamOption vararg) (cutParamList kwOnly) (cutParamOption kwarg)

end

mutual

def Pattern.cut : Pattern → Pattern
  | .value l e => .value l (e.cut cuts)
  | .singleton l v => .singleton l v
  | .sequence l ps => .sequence l (cutPatterns ps)
  | .mapping l keys ps rest => .mapping l (cutExprs cuts keys) (cutPatterns ps) rest
  | .classOf l cls ps attrs kps => .classOf l (cls.cut cuts) (cutPatterns ps) attrs (cutPatterns kps)
  | .star l name => .star l name
  | .capture l none name => .capture l none name
  | .capture l (some p) name => .capture l (some p.cut) name
  | .either l ps => .either l (cutPatterns ps)

def cutPatterns : List Pattern → List Pattern
  | [] => []
  | p :: rest => p.cut :: cutPatterns rest

end

def WithItem.cut (w : WithItem) : WithItem := ⟨w.label, w.context.cut cuts, cutOption cuts w.vars⟩

def Simple.cut : Simple → Simple
  | .ret value => .ret (cutOption cuts value)
  | .delete targets => .delete (cutExprs cuts targets)
  | .assign targets value => .assign (cutExprs cuts targets) (value.cut cuts)
  | .augAssign target op value => .augAssign (target.cut cuts) op (value.cut cuts)
  | .annAssign target hint value isSimple =>
    .annAssign (target.cut cuts) (hint.cut cuts) (cutOption cuts value) isSimple
  | .raise exc cause => .raise (cutOption cuts exc) (cutOption cuts cause)
  | .assert test msg => .assert (test.cut cuts) (cutOption cuts msg)
  | .expr value => .expr (value.cut cuts)
  | .importNames names => .importNames names
  | .importFrom module names level => .importFrom module names level
  | .global names => .global names
  | .nonlocal names => .nonlocal names
  | .pass => .pass
  | .breakLoop => .breakLoop
  | .continueLoop => .continueLoop

def FunctionHead.cut (h : FunctionHead) : FunctionHead :=
  { h with
    params := h.params.cut cuts, decorators := cutExprs cuts h.decorators, returns := cutOption cuts h.returns }

def ClassHead.cut (h : ClassHead) : ClassHead :=
  { h with
    bases := cutExprs cuts h.bases, keywords := cutKeywords cuts h.keywords,
    decorators := cutExprs cuts h.decorators }

mutual

def Stmt.cut : Stmt → Stmt
  | .simple l s => .simple l (s.cut cuts)
  | .func l head body => .func l (head.cut cuts) (cutBlock body)
  | .klass l head body => .klass l (head.cut cuts) (cutBlock body)
  | .ifElse l test body orelse => .ifElse l (test.cut cuts) (cutBlock body) (cutBlock orelse)
  | .forLoop l isAsync target iter body orelse =>
    .forLoop l isAsync (target.cut cuts) (iter.cut cuts) (cutBlock body) (cutBlock orelse)
  | .whileLoop l test body orelse => .whileLoop l (test.cut cuts) (cutBlock body) (cutBlock orelse)
  | .withBlock l isAsync items body => .withBlock l isAsync (items.map (WithItem.cut cuts)) (cutBlock body)
  | .matchOn l subject cases => .matchOn l (subject.cut cuts) (cutCases cases)
  | .tryBlock l isStar body handlers orelse finalbody =>
    .tryBlock l isStar (cutBlock body) (cutHandlers handlers) (cutBlock orelse) (cutBlock finalbody)

def cutBlock : List Stmt → List Stmt
  | [] => []
  | s :: rest => s.cut :: cutBlock rest

def cutHandlers : List Handler → List Handler
  | [] => []
  | .mk l type name body :: rest => .mk l (cutOption cuts type) name (cutBlock body) :: cutHandlers rest

def cutCases : List MatchCase → List MatchCase
  | [] => []
  | .mk l p guard body :: rest => .mk l (p.cut cuts) (cutOption cuts guard) (cutBlock body) :: cutCases rest

end

def Module.cut (m : Module) : Module := ⟨cutBlock cuts m.body⟩

end Whittle
