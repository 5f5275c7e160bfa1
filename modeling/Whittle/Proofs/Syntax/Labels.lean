import Mathlib.Data.List.Nodup
import Whittle.Proofs.Syntax.Traversal
import Whittle.Syntax.Label

namespace Whittle

-- The labels of a tree stand in the order in which numbering gives them out.
mutual

def Expr.labels : Expr → List Label
  | .boolOp l _ values => l :: labelsOfExprs values
  | .namedExpr l target value => l :: target.labels ++ value.labels
  | .binOp l left _ right => l :: left.labels ++ right.labels
  | .unaryOp l _ operand => l :: operand.labels
  | .lambda l ps body => l :: ps.labels ++ body.labels
  | .ifExp l test body orelse => l :: test.labels ++ body.labels ++ orelse.labels
  | .dict l items => l :: labelsOfItems items
  | .set l elts => l :: labelsOfExprs elts
  | .comp l _ elt generators => l :: elt.labels ++ labelsOfClauses generators
  | .dictComp l key value generators => l :: key.labels ++ value.labels ++ labelsOfClauses generators
  | .await l value => l :: value.labels
  | .yield l value => l :: labelsOfOption value
  | .yieldFrom l value => l :: value.labels
  | .compare l left _ comparators => l :: left.labels ++ labelsOfExprs comparators
  | .call l func args keywords => l :: func.labels ++ labelsOfExprs args ++ labelsOfKeywords keywords
  | .formatted l value _ spec => l :: value.labels ++ labelsOfOption spec
  | .joined l values => l :: labelsOfExprs values
  | .constant l _ => [l]
  | .attribute l value _ _ => l :: value.labels
  | .subscript l value index _ => l :: value.labels ++ index.labels
  | .starred l value _ => l :: value.labels
  | .name l _ _ => [l]
  | .list l elts _ => l :: labelsOfExprs elts
  | .tuple l elts _ => l :: labelsOfExprs elts
  | .slice l lower upper step => l :: labelsOfOption lower ++ labelsOfOption upper ++ labelsOfOption step

def labelsOfExprs : List Expr → List Label
  | [] => []
  | e :: rest => e.labels ++ labelsOfExprs rest

def labelsOfOption : Option Expr → List Label
  | none => []
  | some e => e.labels

def labelsOfItems : List DictItem → List Label
  | [] => []
  | .pair key value :: rest => key.labels ++ value.labels ++ labelsOfItems rest
  | .spread value :: rest => value.labels ++ labelsOfItems rest

def labelsOfClauses : List Comprehension → List Label
  | [] => []
  | .mk l target iter ifs _ :: rest => l :: target.labels ++ iter.labels ++ labelsOfExprs ifs ++ labelsOfClauses rest

def labelsOfKeywords : List Keyword → List Label
  | [] => []
  | .mk l _ value :: rest => l :: value.labels ++ labelsOfKeywords rest

def Param.labels : Param → List Label
  | .mk l _ hint default => l :: labelsOfOption hint ++ labelsOfOption default

def labelsOfParamList : List Param → List Label
  | [] => []
  | p :: rest => p.labels ++ labelsOfParamList rest

def labelsOfParamOption : Option Param → List Label
  | none => []
  | some p => p.labels

def Params.labels : Params → List Label
  | .mk l posOnly args vararg kwOnly kwarg =>
    l :: labelsOfParamList posOnly ++ labelsOfParamList args ++ labelsOfParamOption vararg ++
      labelsOfParamList kwOnly ++ labelsOfParamOption kwarg

end

mutual

def Pattern.labels : Pattern → List Label
  | .value l e => l :: e.labels
  | .singleton l _ => [l]
  | .sequence l ps => l :: labelsOfPatterns ps
  | .mapping l keys ps _ => l :: labelsOfExprs keys ++ labelsOfPatterns ps
  | .classOf l cls ps _ kps => l :: cls.labels ++ labelsOfPatterns ps ++ labelsOfPatterns kps
  | .star l _ => [l]
  | .capture l none _ => [l]
  | .capture l (some p) _ => l :: p.labels
  | .either l ps => l :: labelsOfPatterns ps

def labelsOfPatterns : List Pattern → List Label
  | [] => []
  | p :: rest => p.labels ++ labelsOfPatterns rest

end

def WithItem.labels (w : WithItem) : List Label := w.label :: w.context.labels ++ labelsOfOption w.vars

def Simple.labels : Simple → List Label
  | .ret value => labelsOfOption value
  | .delete targets => labelsOfExprs targets
  | .assign targets value => labelsOfExprs targets ++ value.labels
  | .augAssign target _ value => target.labels ++ value.labels
  | .annAssign target hint value _ => target.labels ++ hint.labels ++ labelsOfOption value
  | .raise exc cause => labelsOfOption exc ++ labelsOfOption cause
  | .assert test msg => test.labels ++ labelsOfOption msg
  | .importNames names => names.map Alias.label
  | .importFrom _ names _ => names.map Alias.label
  | .expr value => value.labels
  | .global _ | .nonlocal _ | .pass | .breakLoop | .continueLoop => []

def FunctionHead.labels (h : FunctionHead) : List Label :=
  h.params.labels ++ labelsOfExprs h.decorators ++ labelsOfOption h.returns

def ClassHead.labels (h : ClassHead) : List Label :=
  labelsOfExprs h.bases ++ labelsOfKeywords h.keywords ++ labelsOfExprs h.decorators

mutual

def Stmt.labels : Stmt → List Label
  | .simple l s => l :: s.labels
  | .func l head body => l :: head.labels ++ labelsOfBlock body
  | .klass l head body => l :: head.labels ++ labelsOfBlock body
  | .ifElse l test body orelse => l :: test.labels ++ labelsOfBlock body ++ labelsOfBlock orelse
  | .forLoop l _ target iter body orelse =>
    l :: target.labels ++ iter.labels ++ labelsOfBlock body ++ labelsOfBlock orelse
  | .whileLoop l test body orelse => l :: test.labels ++ labelsOfBlock body ++ labelsOfBlock orelse
  | .withBlock l _ items body => l :: items.flatMap WithItem.labels ++ labelsOfBlock body
  | .matchOn l subject cases => l :: subject.labels ++ labelsOfCases cases
  | .tryBlock l _ body handlers orelse finalbody =>
    l :: labelsOfBlock body ++ labelsOfHandlers handlers ++ labelsOfBlock orelse ++ labelsOfBlock finalbody

def labelsOfBlock : List Stmt → List Label
  | [] => []
  | s :: rest => s.labels ++ labelsOfBlock rest

def labelsOfHandlers : List Handler → List Label
  | [] => []
  | .mk l type _ body :: rest => l :: labelsOfOption type ++ labelsOfBlock body ++ labelsOfHandlers rest

def labelsOfCases : List MatchCase → List Label
  | [] => []
  | .mk l p guard body :: rest =>
    l :: p.labels ++ labelsOfOption guard ++ labelsOfBlock body ++ labelsOfCases rest

end

def Module.labels (m : Module) : List Label := labelsOfBlock m.body

end Whittle
