import Whittle.Syntax.Stmt

namespace Whittle

-- Contexts and operators are nodes, too; each is one and the same node wherever it occurs.
inductive Mark where
  | context (c : Context)
  | boolOp (op : BoolOp)
  | binaryOp (op : BinaryOp)
  | unaryOp (op : UnaryOp)
  | compareOp (op : CompareOp)
  deriving DecidableEq, Repr

inductive Node where
  | module (m : Module)
  | stmt (s : Stmt)
  | expr (e : Expr)
  | params (p : Params)
  | param (p : Param)
  | keyword (k : Keyword)
  | comprehension (c : Comprehension)
  | alias (a : Alias)
  | withItem (w : WithItem)
  | handler (h : Handler)
  | matchCase (c : MatchCase)
  | pattern (p : Pattern)
  | mark (m : Mark)

def Mark.className : Mark → String
  | .context .load => "Load" | .context .store => "Store" | .context .del => "Del"
  | .boolOp .and => "And" | .boolOp .or => "Or"
  | .binaryOp op => match op with
    | .add => "Add" | .sub => "Sub" | .mult => "Mult" | .matMult => "MatMult" | .div => "Div" | .mod => "Mod"
    | .pow => "Pow" | .lShift => "LShift" | .rShift => "RShift" | .bitOr => "BitOr" | .bitXor => "BitXor"
    | .bitAnd => "BitAnd" | .floorDiv => "FloorDiv"
  | .unaryOp op => match op with
    | .invert => "Invert" | .not => "Not" | .plus => "UAdd" | .minus => "USub"
  | .compareOp op => match op with
    | .eq => "Eq" | .notEq => "NotEq" | .lt => "Lt" | .ltE => "LtE" | .gt => "Gt" | .gtE => "GtE" | .is => "Is"
    | .isNot => "IsNot" | .isIn => "In" | .notIn => "NotIn"

def Mark.family : Mark → String
  | .context _ => "expr_context"
  | .boolOp _ => "boolop"
  | .binaryOp _ => "operator"
  | .unaryOp _ => "unaryop"
  | .compareOp _ => "cmpop"

def Mark.code : Mark → Nat
  | .context c => match c with
    | .load => 1 | .store => 2 | .del => 3
  | .boolOp op => match op with
    | .and => 4 | .or => 5
  | .unaryOp op => match op with
    | .invert => 6 | .not => 7 | .plus => 8 | .minus => 9
  | .binaryOp op => match op with
    | .add => 10 | .sub => 11 | .mult => 12 | .matMult => 13 | .div => 14 | .mod => 15 | .pow => 16 | .lShift => 17
    | .rShift => 18 | .bitOr => 19 | .bitXor => 20 | .bitAnd => 21 | .floorDiv => 22
  | .compareOp op => match op with
    | .eq => 23 | .notEq => 24 | .lt => 25 | .ltE => 26 | .gt => 27 | .gtE => 28 | .is => 29 | .isNot => 30
    | .isIn => 31 | .notIn => 32

def Expr.className : Expr → String
  | .boolOp .. => "BoolOp" | .namedExpr .. => "NamedExpr" | .binOp .. => "BinOp" | .unaryOp .. => "UnaryOp"
  | .lambda .. => "Lambda" | .ifExp .. => "IfExp" | .dict .. => "Dict" | .set .. => "Set"
  | .comp _ .list .. => "ListComp" | .comp _ .set .. => "SetComp" | .comp _ .generator .. => "GeneratorExp"
  | .dictComp .. => "DictComp" | .await .. => "Await" | .yield .. => "Yield" | .yieldFrom .. => "YieldFrom"
  | .compare .. => "Compare" | .call .. => "Call" | .formatted .. => "FormattedValue" | .joined .. => "JoinedStr"
  | .constant .. => "Constant" | .attribute .. => "Attribute" | .subscript .. => "Subscript"
  | .starred .. => "Starred" | .name .. => "Name" | .list .. => "List" | .tuple .. => "Tuple" | .slice .. => "Slice"

def Simple.className : Simple → String
  | .ret .. => "Return" | .delete .. => "Delete" | .assign .. => "Assign" | .augAssign .. => "AugAssign"
  | .annAssign .. => "AnnAssign" | .raise .. => "Raise" | .assert .. => "Assert" | .importNames .. => "Import"
  | .importFrom .. => "ImportFrom" | .global .. => "Global" | .nonlocal .. => "Nonlocal" | .expr .. => "Expr"
  | .pass => "Pass" | .breakLoop => "Break" | .continueLoop => "Continue"

def Stmt.className : Stmt → String
  | .simple _ s => s.className
  | .func _ head _ => if head.isAsync then "AsyncFunctionDef" else "FunctionDef"
  | .klass .. => "ClassDef"
  | .ifElse .. => "If"
  | .forLoop _ isAsync .. => if isAsync then "AsyncFor" else "For"
  | .whileLoop .. => "While"
  | .withBlock _ isAsync .. => if isAsync then "AsyncWith" else "With"
  | .matchOn .. => "Match"
  | .tryBlock _ isStar .. => if isStar then "TryStar" else "Try"

def Pattern.className : Pattern → String
  | .value .. => "MatchValue" | .singleton .. => "MatchSingleton" | .sequence .. => "MatchSequence"
  | .mapping .. => "MatchMapping" | .classOf .. => "MatchClass" | .star .. => "MatchStar" | .capture .. => "MatchAs"
  | .either .. => "MatchOr"

namespace Node

def className : Node → String
  | .module _ => "Module"
  | .stmt s => s.className
  | .expr e => e.className
  | .params _ => "arguments"
  | .param _ => "arg"
  | .keyword _ => "keyword"
  | .comprehension _ => "comprehension"
  | .alias _ => "alias"
  | .withItem _ => "withitem"
  | .handler _ => "ExceptHandler"
  | .matchCase _ => "match_case"
  | .pattern p => p.className
  | .mark m => m.className

def family : Node → String
  | .module _ => "mod"
  | .stmt _ => "stmt"
  | .expr _ => "expr"
  | .handler _ => "excepthandler"
  | .pattern _ => "pattern"
  | .mark m => m.family
  | _ => "AST"

def isA (n : Node) (cls : String) : Bool := n.className == cls || n.family == cls || cls == "AST"

def label : Node → Label
  | .module _ | .mark _ => none
  | .stmt s => s.label
  | .expr e => e.label
  | .params p => p.label
  | .param p => p.label
  | .keyword k => k.label
  | .comprehension c => c.label
  | .alias a => a.label
  | .withItem w => w.label
  | .handler h => h.label
  | .matchCase c => c.label
  | .pattern p => p.label

def firstLabelKey : Nat := 64

-- What a node is recognised by: the module by zero, a shared node by its number, any other by its label.
def key? : Node → Option Nat
  | .module _ => some 0
  | .mark m => some m.code
  | n => n.label.map (· + firstLabelKey)

def ofExprs (es : List Expr) : List Node := es.map .expr

def ofStmts (ss : List Stmt) : List Node := ss.map .stmt

def ofOption (e : Option Expr) : List Node := (e.map Node.expr).toList

def ofContext (c : Context) : Node := .mark (.context c)

end Node

open Node

def Expr.children : Expr → List Node
  | .boolOp _ op values => .mark (.boolOp op) :: ofExprs values
  | .namedExpr _ target value => [.expr target, .expr value]
  | .binOp _ left op right => [.expr left, .mark (.binaryOp op), .expr right]
  | .unaryOp _ op operand => [.mark (.unaryOp op), .expr operand]
  | .lambda _ ps body => [.params ps, .expr body]
  | .ifExp _ test body orelse => [.expr test, .expr body, .expr orelse]
  | .dict _ items => ofExprs (items.filterMap DictItem.key?) ++ ofExprs (items.map DictItem.value)
  | .set _ elts => ofExprs elts
  | .comp _ _ elt generators => .expr elt :: generators.map .comprehension
  | .dictComp _ key value generators => .expr key :: .expr value :: generators.map .comprehension
  | .await _ value => [.expr value]
  | .yield _ value => ofOption value
  | .yieldFrom _ value => [.expr value]
  | .compare _ left ops comparators =>
    .expr left :: ops.map (fun op => .mark (.compareOp op)) ++ ofExprs comparators
  | .call _ func args keywords => .expr func :: ofExprs args ++ keywords.map .keyword
  | .formatted _ value _ spec => .expr value :: ofOption spec
  | .joined _ values => ofExprs values
  | .constant .. => []
  | .attribute _ value _ ctx => [.expr value, ofContext ctx]
  | .subscript _ value index ctx => [.expr value, .expr index, ofContext ctx]
  | .starred _ value ctx => [.expr value, ofContext ctx]
  | .name _ _ ctx => [ofContext ctx]
  | .list _ elts ctx => ofExprs elts ++ [ofContext ctx]
  | .tuple _ elts ctx => ofExprs elts ++ [ofContext ctx]
  | .slice _ lower upper step => ofOption lower ++ ofOption upper ++ ofOption step

-- Parameters come in the order in which they are filled; the defaults of positional ones come last.
def Params.children (p : Params) : List Node :=
  p.posOnly.map .param ++ p.args.map .param ++ p.vararg.toList.map .param ++ p.kwOnly.map .param ++
    ofExprs (p.kwOnly.filterMap Param.default) ++ p.kwarg.toList.map .param ++
    ofExprs (p.positional.filterMap Param.default)

def Pattern.children : Pattern → List Node
  | .value _ e => [.expr e]
  | .singleton .. => []
  | .sequence _ ps => ps.map .pattern
  | .mapping _ keys ps _ => ofExprs keys ++ ps.map .pattern
  | .classOf _ cls ps _ kps => .expr cls :: ps.map .pattern ++ kps.map .pattern
  | .star .. => []
  | .capture _ p _ => (p.map Node.pattern).toList
  | .either _ ps => ps.map .pattern

def Simple.children : Simple → List Node
  | .ret value => ofOption value
  | .delete targets => ofExprs targets
  | .assign targets value => ofExprs targets ++ [.expr value]
  | .augAssign target op value => [.expr target, .mark (.binaryOp op), .expr value]
  | .annAssign target hint value _ => .expr target :: .expr hint :: ofOption value
  | .raise exc cause => ofOption exc ++ ofOption cause
  | .assert test msg => .expr test :: ofOption msg
  | .importNames names => names.map .alias
  | .importFrom _ names _ => names.map .alias
  | .expr value => [.expr value]
  | .global _ | .nonlocal _ | .pass | .breakLoop | .continueLoop => []

def Stmt.children : Stmt → List Node
  | .simple _ s => s.children
  | .func _ head body => .params head.params :: ofStmts body ++ ofExprs head.decorators ++ ofOption head.returns
  | .klass _ head body =>
    ofExprs head.bases ++ head.keywords.map .keyword ++ ofStmts body ++ ofExprs head.decorators
  | .ifElse _ test body orelse => .expr test :: ofStmts body ++ ofStmts orelse
  | .forLoop _ _ target iter body orelse => .expr target :: .expr iter :: ofStmts body ++ ofStmts orelse
  | .whileLoop _ test body orelse => .expr test :: ofStmts body ++ ofStmts orelse
  | .withBlock _ _ items body => items.map .withItem ++ ofStmts body
  | .matchOn _ subject cases => .expr subject :: cases.map .matchCase
  | .tryBlock _ _ body handlers orelse finalbody =>
    ofStmts body ++ handlers.map .handler ++ ofStmts orelse ++ ofStmts finalbody

def Node.children : Node → List Node
  | .module m => ofStmts m.body
  | .stmt s => s.children
  | .expr e => e.children
  | .params p => p.children
  | .param p => ofOption p.hint
  | .keyword k => [.expr k.value]
  | .comprehension (.mk _ target iter ifs _) => .expr target :: .expr iter :: ofExprs ifs
  | .alias _ => []
  | .withItem w => .expr w.context :: ofOption w.vars
  | .handler (.mk _ type _ body) => ofOption type ++ ofStmts body
  | .matchCase (.mk _ p guard body) => .pattern p :: ofOption guard ++ ofStmts body
  | .pattern p => p.children
  | .mark _ => []

mutual

def Expr.size : Expr → Nat
  | .boolOp _ _ values => 2 + sizes values
  | .namedExpr _ target value => 1 + target.size + value.size
  | .binOp _ left _ right => 2 + left.size + right.size
  | .unaryOp _ _ operand => 2 + operand.size
  | .lambda _ ps body => 1 + ps.size + body.size
  | .ifExp _ test body orelse => 1 + test.size + body.size + orelse.size
  | .dict _ items => 1 + itemSizes items
  | .set _ elts => 1 + sizes elts
  | .comp _ _ elt generators => 1 + elt.size + clauseSizes generators
  | .dictComp _ key value generators => 1 + key.size + value.size + clauseSizes generators
  | .await _ value => 1 + value.size
  | .yield _ none => 1
  | .yield _ (some value) => 1 + value.size
  | .yieldFrom _ value => 1 + value.size
  | .compare _ left ops comparators => 1 + left.size + ops.length + sizes comparators
  | .call _ func args keywords => 1 + func.size + sizes args + keywordSizes keywords
  | .formatted _ value _ none => 1 + value.size
  | .formatted _ value _ (some spec) => 1 + value.size + spec.size
  | .joined _ values => 1 + sizes values
  | .constant .. => 1
  | .attribute _ value _ _ => 2 + value.size
  | .subscript _ value index _ => 2 + value.size + index.size
  | .starred _ value _ => 2 + value.size
  | .name .. => 2
  | .list _ elts _ => 2 + sizes elts
  | .tuple _ elts _ => 2 + sizes elts
  | .slice _ lower upper step => 1 + optionSize lower + optionSize upper + optionSize step

def sizes : List Expr → Nat
  | [] => 0
  | e :: rest => e.size + sizes rest

def optionSize : Option Expr → Nat
  | none => 0
  | some e => e.size

def itemSizes : List DictItem → Nat
  | [] => 0
  | .pair key value :: rest => key.size + value.size + itemSizes rest
  | .spread value :: rest => value.size + itemSizes rest

def clauseSizes : List Comprehension → Nat
  | [] => 0
  | .mk _ target iter ifs _ :: rest => 1 + target.size + iter.size + sizes ifs + clauseSizes rest

def keywordSizes : List Keyword → Nat
  | [] => 0
  | .mk _ _ value :: rest => 1 + value.size + keywordSizes rest

def Param.size : Param → Nat
  | .mk _ _ hint default => 1 + optionSize hint + optionSize default

def paramSizes : List Param → Nat
  | [] => 0
  | p :: rest => p.size + paramSizes rest

def optionParamSize : Option Param → Nat
  | none => 0
  | some p => p.size

def Params.size : Params → Nat
  | .mk _ posOnly args vararg kwOnly kwarg =>
    1 + paramSizes posOnly + paramSizes args + optionParamSize vararg + paramSizes kwOnly + optionParamSize kwarg

end

mutual

def Pattern.size : Pattern → Nat
  | .value _ e => 1 + e.size
  | .singleton .. => 1
  | .sequence _ ps => 1 + patternSizes ps
  | .mapping _ keys ps _ => 1 + sizes keys + patternSizes ps
  | .classOf _ cls ps _ kps => 1 + cls.size + patternSizes ps + patternSizes kps
  | .star .. => 1
  | .capture _ none _ => 1
  | .capture _ (some p) _ => 1 + p.size
  | .either _ ps => 1 + patternSizes ps

def patternSizes : List Pattern → Nat
  | [] => 0
  | p :: rest => p.size + patternSizes rest

end

def WithItem.size (w : WithItem) : Nat := 1 + w.context.size + optionSize w.vars

def withItemSizes : List WithItem → Nat
  | [] => 0
  | w :: rest => w.size + withItemSizes rest

def Simple.size : Simple → Nat
  | .ret value => optionSize value
  | .delete targets => sizes targets
  | .assign targets value => sizes targets + value.size
  | .augAssign target _ value => 1 + target.size + value.size
  | .annAssign target hint value _ => target.size + hint.size + optionSize value
  | .raise exc cause => optionSize exc + optionSize cause
  | .assert test msg => test.size + optionSize msg
  | .importNames names => names.length
  | .importFrom _ names _ => names.length
  | .expr value => value.size
  | .global _ | .nonlocal _ | .pass | .breakLoop | .continueLoop => 0

mutual

def Stmt.size : Stmt → Nat
  | .simple _ s => 1 + s.size
  | .func _ head body => 1 + head.params.size + blockSize body + sizes head.decorators + optionSize head.returns
  | .klass _ head body => 1 + sizes head.bases + keywordSizes head.keywords + blockSize body + sizes head.decorators
  | .ifElse _ test body orelse => 1 + test.size + blockSize body + blockSize orelse
  | .forLoop _ _ target iter body orelse => 1 + target.size + iter.size + blockSize body + blockSize orelse
  | .whileLoop _ test body orelse => 1 + test.size + blockSize body + blockSize orelse
  | .withBlock _ _ items body => 1 + withItemSizes items + blockSize body
  | .matchOn _ subject cases => 1 + subject.size + caseSizes cases
  | .tryBlock _ _ body handlers orelse finalbody =>
    1 + blockSize body + handlerSizes handlers + blockSize orelse + blockSize finalbody

def blockSize : List Stmt → Nat
  | [] => 0
  | s :: rest => s.size + blockSize rest

def handlerSizes : List Handler → Nat
  | [] => 0
  | .mk _ type _ body :: rest => 1 + optionSize type + blockSize body + handlerSizes rest

def caseSizes : List MatchCase → Nat
  | [] => 0
  | .mk _ p guard body :: rest => 1 + p.size + optionSize guard + blockSize body + caseSizes rest

end

def Node.size : Node → Nat
  | .module m => 1 + blockSize m.body
  | .stmt s => s.size
  | .expr e => e.size
  | .params p => p.size
  | .param p => p.size
  | .keyword k => 1 + k.value.size
  | .comprehension c => clauseSizes [c]
  | .alias _ => 1
  | .withItem w => w.size
  | .handler h => handlerSizes [h]
  | .matchCase c => caseSizes [c]
  | .pattern p => p.size
  | .mark _ => 1

namespace Node

def preorder : Nat → Node → List Node
  | 0, n => [n]
  | depth + 1, n => n :: n.children.flatMap (preorder depth)

-- All nodes of a tree, parents before children and siblings in order; the size bounds the depth.
def walk (n : Node) : List Node := preorder n.size n

structure Visits where
  stack : List Node
  visited : Array Node

-- Visits from a stack: the top comes off and its children go on, the last first, until nothing is left.
def Visits.finish (v : Visits) : Option (Array Node) :=
  match v.stack with
  | [] => some v.visited
  | n :: rest =>
    { stack := n.children.reverse.foldl (fun stack c => c :: stack) rest
      visited := v.visited.push n : Visits } |>.finish
partial_fixpoint

structure Located where
  node : Node
  ancestors : List Node

def locate : Nat → List Node → Node → List Located
  | 0, above, n => [⟨n, above⟩]
  | depth + 1, above, n => ⟨n, above⟩ :: n.children.flatMap (locate depth (n :: above))

def located (n : Node) : List Located := locate n.size [] n

def levels : Nat → List Node → List Node
  | 0, _ => []
  | depth + 1, ns => if ns.isEmpty then [] else ns ++ levels depth (ns.flatMap children)

def breadthFirst (n : Node) : List Node := levels (n.size + 1) [n]

end Node

end Whittle
