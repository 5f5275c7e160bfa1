import Whittle.Syntax.Stmt

namespace Whittle

def freshLabel : StateM Nat Label := fun n => (some n, n + 1)

mutual

def Expr.number : Expr → StateM Nat Expr
  | .boolOp _ op values => do return .boolOp (← freshLabel) op (← numberExprs values)
  | .namedExpr _ target value => do return .namedExpr (← freshLabel) (← target.number) (← value.number)
  | .binOp _ left op right => do return .binOp (← freshLabel) (← left.number) op (← right.number)
  | .unaryOp _ op operand => do return .unaryOp (← freshLabel) op (← operand.number)
  | .lambda _ ps body => do return .lambda (← freshLabel) (← ps.number) (← body.number)
  | .ifExp _ test body orelse => do
    return .ifExp (← freshLabel) (← test.number) (← body.number) (← orelse.number)
  | .dict _ items => do return .dict (← freshLabel) (← numberItems items)
  | .set _ elts => do return .set (← freshLabel) (← numberExprs elts)
  | .comp _ kind elt generators => do
    return .comp (← freshLabel) kind (← elt.number) (← numberClauses generators)
  | .dictComp _ key value generators => do
    return .dictComp (← freshLabel) (← key.number) (← value.number) (← numberClauses generators)
  | .await _ value => do return .await (← freshLabel) (← value.number)
  | .yield _ value => do return .yield (← freshLabel) (← numberOption value)
  | .yieldFrom _ value => do return .yieldFrom (← freshLabel) (← value.number)
  | .compare _ left ops comparators => do
    return .compare (← freshLabel) (← left.number) ops (← numberExprs comparators)
  | .call _ func args keywords => do
    return .call (← freshLabel) (← func.number) (← numberExprs args) (← numberKeywords keywords)
  | .formatted _ value conversion spec => do
    return .formatted (← freshLabel) (← value.number) conversion (← numberOption spec)
  | .joined _ values => do return .joined (← freshLabel) (← numberExprs values)
  | .constant _ value => do return .constant (← freshLabel) value
  | .attribute _ value attr ctx => do return .attribute (← freshLabel) (← value.number) attr ctx
  | .subscript _ value index ctx => do return .subscript (← freshLabel) (← value.number) (← index.number) ctx
  | .starred _ value ctx => do return .starred (← freshLabel) (← value.number) ctx
  | .name _ id ctx => do return .name (← freshLabel) id ctx
  | .list _ elts ctx => do return .list (← freshLabel) (← numberExprs elts) ctx
  | .tuple _ elts ctx => do return .tuple (← freshLabel) (← numberExprs elts) ctx
  | .slice _ lower upper step => do
    return .slice (← freshLabel) (← numberOption lower) (← numberOption upper) (← numberOption step)

def numberExprs : List Expr → StateM Nat (List Expr)
  | [] => return []
  | e :: rest => do return (← e.number) :: (← numberExprs rest)

def numberOption : Option Expr → StateM Nat (Option Expr)
  | none => return none
  | some e => do return some (← e.number)

def numberItems : List DictItem → StateM Nat (List DictItem)
  | [] => return []
  | .pair key value :: rest => do return .pair (← key.number) (← value.number) :: (← numberItems rest)
  | .spread value :: rest => do return .spread (← value.number) :: (← numberItems rest)

def numberClauses : List Comprehension → StateM Nat (List Comprehension)
  | [] => return []
  | .mk _ target iter ifs isAsync :: rest => do
    return .mk (← freshLabel) (← target.number) (← iter.number) (← numberExprs ifs) isAsync :: (← numberClauses rest)

def numberKeywords : List Keyword → StateM Nat (List Keyword)
  | [] => return []
  | .mk _ name value :: rest => do return .mk (← freshLabel) name (← value.number) :: (← numberKeywords rest)

def Param.number : Param → StateM Nat Param
  | .mk _ name hint default => do
    return .mk (← freshLabel) name (← numberOption hint) (← numberOption default)

def numberParamList : List Param → StateM Nat (List Param)
  | [] => return []
  | p :: rest => do return (← p.number) :: (← numberParamList rest)

def numberParamOption : Option Param → StateM Nat (Option Param)
  | none => return none
  | some p => do return some (← p.number)

def Params.number : Params → StateM Nat Params
  | .mk _ posOnly args vararg kwOnly kwarg => do
    return .mk (← freshLabel) (← numberParamList posOnly) (← numberParamList args) (← numberParamOption vararg)
      (← numberParamList kwOnly) (← numberParamOption kwarg)

end

mutual

def Pattern.number : Pattern → StateM Nat Pattern
  | .value _ e => do return .value (← freshLabel) (← e.number)
  | .singleton _ v => do return .singleton (← freshLabel) v
  | .sequence _ ps => do return .sequence (← freshLabel) (← numberPatterns ps)
  | .mapping _ keys ps rest => do return .mapping (← freshLabel) (← numberExprs keys) (← numberPatterns ps) rest
  | .classOf _ cls ps attrs kps => do
    return .classOf (← freshLabel) (← cls.number) (← numberPatterns ps) attrs (← numberPatterns kps)
  | .star _ name => do return .star (← freshLabel) name
  | .capture _ none name => do return .capture (← freshLabel) none name
  | .capture _ (some p) name => do return .capture (← freshLabel) (some (← p.number)) name
  | .either _ ps => do return .either (← freshLabel) (← numberPatterns ps)

def numberPatterns : List Pattern → StateM Nat (List Pattern)
  | [] => return []
  | p :: rest => do return (← p.number) :: (← numberPatterns rest)

end

def Alias.number (a : Alias) : StateM Nat Alias := do return { a with label := ← freshLabel }

def WithItem.number (w : WithItem) : StateM Nat WithItem := do
  return ⟨← freshLabel, ← w.context.number, ← numberOption w.vars⟩

def Simple.number : Simple → StateM Nat Simple
  | .ret value => do return .ret (← numberOption value)
  | .delete targets => do return .delete (← numberExprs targets)
  | .assign targets value => do return .assign (← numberExprs targets) (← value.number)
  | .augAssign target op value => do return .augAssign (← target.number) op (← value.number)
  | .annAssign target hint value isSimple => do
    return .annAssign (← target.number) (← hint.number) (← numberOption value) isSimple
  | .raise exc cause => do return .raise (← numberOption exc) (← numberOption cause)
  | .assert test msg => do return .assert (← test.number) (← numberOption msg)
  | .importNames names => do return .importNames (← names.mapM Alias.number)
  | .importFrom module names level => do return .importFrom module (← names.mapM Alias.number) level
  | .expr value => do return .expr (← value.number)
  | .global names => return .global names
  | .nonlocal names => return .nonlocal names
  | .pass => return .pass
  | .breakLoop => return .breakLoop
  | .continueLoop => return .continueLoop

def FunctionHead.number (h : FunctionHead) : StateM Nat FunctionHead := do
  return { h with params := ← h.params.number, decorators := ← numberExprs h.decorators,
                  returns := ← numberOption h.returns }

def ClassHead.number (h : ClassHead) : StateM Nat ClassHead := do
  return { h with bases := ← numberExprs h.bases, keywords := ← numberKeywords h.keywords,
                  decorators := ← numberExprs h.decorators }

mutual

def Stmt.number : Stmt → StateM Nat Stmt
  | .simple _ s => do return .simple (← freshLabel) (← s.number)
  | .func _ head body => do return .func (← freshLabel) (← head.number) (← numberBlock body)
  | .klass _ head body => do return .klass (← freshLabel) (← head.number) (← numberBlock body)
  | .ifElse _ test body orelse => do
    return .ifElse (← freshLabel) (← test.number) (← numberBlock body) (← numberBlock orelse)
  | .forLoop _ isAsync target iter body orelse => do
    return .forLoop (← freshLabel) isAsync (← target.number) (← iter.number) (← numberBlock body) (← numberBlock orelse)
  | .whileLoop _ test body orelse => do
    return .whileLoop (← freshLabel) (← test.number) (← numberBlock body) (← numberBlock orelse)
  | .withBlock _ isAsync items body => do
    return .withBlock (← freshLabel) isAsync (← items.mapM WithItem.number) (← numberBlock body)
  | .matchOn _ subject cases => do return .matchOn (← freshLabel) (← subject.number) (← numberCases cases)
  | .tryBlock _ isStar body handlers orelse finalbody => do
    return .tryBlock (← freshLabel) isStar (← numberBlock body) (← numberHandlers handlers) (← numberBlock orelse)
      (← numberBlock finalbody)

def numberBlock : List Stmt → StateM Nat (List Stmt)
  | [] => return []
  | s :: rest => do return (← s.number) :: (← numberBlock rest)

def numberHandlers : List Handler → StateM Nat (List Handler)
  | [] => return []
  | .mk _ type name body :: rest => do
    return .mk (← freshLabel) (← numberOption type) name (← numberBlock body) :: (← numberHandlers rest)

def numberCases : List MatchCase → StateM Nat (List MatchCase)
  | [] => return []
  | .mk _ p guard body :: rest => do
    return .mk (← freshLabel) (← p.number) (← numberOption guard) (← numberBlock body) :: (← numberCases rest)

end

def Module.number (m : Module) : Module := ⟨(numberBlock m.body 0).1⟩

end Whittle
