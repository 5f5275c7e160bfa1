import Whittle.Syntax.Literal

namespace Whittle

-- The identity of a node in its tree; `none` for a node that no tree has indexed.
abbrev Label := Option Nat

mutual

inductive Expr where
  | boolOp (label : Label) (op : BoolOp) (values : List Expr)
  | namedExpr (label : Label) (target value : Expr)
  | binOp (label : Label) (left : Expr) (op : BinaryOp) (right : Expr)
  | unaryOp (label : Label) (op : UnaryOp) (operand : Expr)
  | lambda (label : Label) (params : Params) (body : Expr)
  | ifExp (label : Label) (test body orelse : Expr)
  | dict (label : Label) (items : List DictItem)
  | set (label : Label) (elts : List Expr)
  | comp (label : Label) (kind : Collection) (elt : Expr) (generators : List Comprehension)
  | dictComp (label : Label) (key value : Expr) (generators : List Comprehension)
  | await (label : Label) (value : Expr)
  | yield (label : Label) (value : Option Expr)
  | yieldFrom (label : Label) (value : Expr)
  | compare (label : Label) (left : Expr) (ops : List CompareOp) (comparators : List Expr)
  | call (label : Label) (func : Expr) (args : List Expr) (keywords : List Keyword)
  | formatted (label : Label) (value : Expr) (conversion : Option Conversion) (spec : Option Expr)
  | joined (label : Label) (values : List Expr)
  | constant (label : Label) (value : Literal)
  | attribute (label : Label) (value : Expr) (attr : String) (ctx : Context)
  | subscript (label : Label) (value slice : Expr) (ctx : Context)
  | starred (label : Label) (value : Expr) (ctx : Context)
  | name (label : Label) (id : String) (ctx : Context)
  | list (label : Label) (elts : List Expr) (ctx : Context)
  | tuple (label : Label) (elts : List Expr) (ctx : Context)
  | slice (label : Label) (lower upper step : Option Expr)

inductive DictItem where
  | pair (key value : Expr)
  | spread (value : Expr)

inductive Comprehension where
  | mk (label : Label) (target iter : Expr) (ifs : List Expr) (isAsync : Bool)

inductive Keyword where
  | mk (label : Label) (name : Option String) (value : Expr)

inductive Param where
  | mk (label : Label) (name : String) (hint default : Option Expr)

inductive Params where
  | mk (label : Label) (posOnly args : List Param) (vararg : Option Param) (kwOnly : List Param)
      (kwarg : Option Param)

end

instance : Inhabited Expr := ⟨.constant none .none⟩

namespace Param

def label : Param → Label
  | .mk l _ _ _ => l

def name : Param → String
  | .mk _ n _ _ => n

def hint : Param → Option Expr
  | .mk _ _ a _ => a

def default : Param → Option Expr
  | .mk _ _ _ d => d

end Param

namespace Params

def label : Params → Label
  | .mk l _ _ _ _ _ => l

def posOnly : Params → List Param
  | .mk _ p _ _ _ _ => p

def args : Params → List Param
  | .mk _ _ a _ _ _ => a

def vararg : Params → Option Param
  | .mk _ _ _ v _ _ => v

def kwOnly : Params → List Param
  | .mk _ _ _ _ k _ => k

def kwarg : Params → Option Param
  | .mk _ _ _ _ _ k => k

def positional (p : Params) : List Param := p.posOnly ++ p.args

def names (p : Params) : List String :=
  (p.positional ++ p.kwOnly ++ p.vararg.toList ++ p.kwarg.toList).map Param.name

def empty : Params := .mk none [] [] none [] none

end Params

namespace Keyword

def label : Keyword → Label
  | .mk l _ _ => l

def name : Keyword → Option String
  | .mk _ n _ => n

def value : Keyword → Expr
  | .mk _ _ v => v

end Keyword

namespace Comprehension

def label : Comprehension → Label
  | .mk l _ _ _ _ => l

end Comprehension

namespace DictItem

def key? : DictItem → Option Expr
  | .pair k _ => some k
  | .spread _ => none

def value : DictItem → Expr
  | .pair _ v => v
  | .spread v => v

end DictItem

namespace Expr

def label : Expr → Label
  | .boolOp l .. | .namedExpr l .. | .binOp l .. | .unaryOp l .. | .lambda l .. | .ifExp l .. | .dict l ..
  | .set l .. | .comp l .. | .dictComp l .. | .await l .. | .yield l .. | .yieldFrom l .. | .compare l ..
  | .call l .. | .formatted l .. | .joined l .. | .constant l .. | .attribute l .. | .subscript l ..
  | .starred l .. | .name l .. | .list l .. | .tuple l .. | .slice l .. => l

end Expr

end Whittle
