import Whittle.Syntax.Expr

namespace Whittle

inductive Pattern where
  | value (label : Label) (value : Expr)
  | singleton (label : Label) (value : Literal)
  | sequence (label : Label) (patterns : List Pattern)
  | mapping (label : Label) (keys : List Expr) (patterns : List Pattern) (rest : Option String)
  | classOf (label : Label) (cls : Expr) (patterns : List Pattern) (kwdAttrs : List String)
      (kwdPatterns : List Pattern)
  | star (label : Label) (name : Option String)
  | capture (label : Label) (pattern : Option Pattern) (name : Option String)
  | either (label : Label) (patterns : List Pattern)

structure Alias where
  label : Label
  name : String
  asName : Option String

structure WithItem where
  label : Label
  context : Expr
  vars : Option Expr

inductive Simple where
  | ret (value : Option Expr)
  | delete (targets : List Expr)
  | assign (targets : List Expr) (value : Expr)
  | augAssign (target : Expr) (op : BinaryOp) (value : Expr)
  | annAssign (target hint : Expr) (value : Option Expr) (isSimple : Bool)
  | raise (exc cause : Option Expr)
  | assert (test : Expr) (msg : Option Expr)
  | importNames (names : List Alias)
  | importFrom (module : Option String) (names : List Alias) (level : Nat)
  | global (names : List String)
  | nonlocal (names : List String)
  | expr (value : Expr)
  | pass
  | breakLoop
  | continueLoop

structure FunctionHead where
  isAsync : Bool
  name : String
  params : Params
  decorators : List Expr
  returns : Option Expr

structure ClassHead where
  name : String
  bases : List Expr
  keywords : List Keyword
  decorators : List Expr

mutual

inductive Stmt where
  | simple (label : Label) (form : Simple)
  | func (label : Label) (head : FunctionHead) (body : List Stmt)
  | klass (label : Label) (head : ClassHead) (body : List Stmt)
  | ifElse (label : Label) (test : Expr) (body orelse : List Stmt)
  | forLoop (label : Label) (isAsync : Bool) (target iter : Expr) (body orelse : List Stmt)
  | whileLoop (label : Label) (test : Expr) (body orelse : List Stmt)
  | withBlock (label : Label) (isAsync : Bool) (items : List WithItem) (body : List Stmt)
  | matchOn (label : Label) (subject : Expr) (cases : List MatchCase)
  | tryBlock (label : Label) (isStar : Bool) (body : List Stmt) (handlers : List Handler)
      (orelse finalbody : List Stmt)

inductive Handler where
  | mk (label : Label) (type : Option Expr) (name : Option String) (body : List Stmt)

inductive MatchCase where
  | mk (label : Label) (pattern : Pattern) (guard : Option Expr) (body : List Stmt)

end

instance : Inhabited Stmt := ⟨.simple none .pass⟩

abbrev Block := List Stmt

structure Module where
  body : Block

namespace Pattern

def label : Pattern → Label
  | .value l .. | .singleton l .. | .sequence l .. | .mapping l .. | .classOf l .. | .star l ..
  | .capture l .. | .either l .. => l

end Pattern

namespace Handler

def label : Handler → Label
  | .mk l _ _ _ => l

def body : Handler → Block
  | .mk _ _ _ b => b

end Handler

namespace MatchCase

def label : MatchCase → Label
  | .mk l _ _ _ => l

def body : MatchCase → Block
  | .mk _ _ _ b => b

end MatchCase

namespace Stmt

def label : Stmt → Label
  | .simple l .. | .func l .. | .klass l .. | .ifElse l .. | .forLoop l .. | .whileLoop l .. | .withBlock l ..
  | .matchOn l .. | .tryBlock l .. => l

def filler : Stmt := .simple none .pass

end Stmt

end Whittle
