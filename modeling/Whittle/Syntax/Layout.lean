import Whittle.Syntax.Render

namespace Whittle.Render

def line (depth : Nat) (s : String) : String := String.join (List.replicate depth "    ") ++ s

def lead (front : String) : Option String → String
  | some s => front ++ s
  | none => ""

mutual

def pattern (place : Strength) : Pattern → Except Fault String
  | .value _ e => expr false .test e
  | .singleton _ v => literal false v
  | .sequence _ ps => do
    return "[" ++ Text.join ", " (← patterns .test ps) ++ "]"
  | .mapping _ keys ps rest => do
    let ks ← exprs false .test keys
    let items := (ks.zip (← patterns .test ps)).map fun (k, p) => k ++ ": " ++ p
    return "\x7b" ++ Text.join ", " (items ++ rest.toList.map ("**" ++ ·)) ++ "\x7d"
  | .classOf _ cls ps attrs kps => do
    let head ← expr false .atom cls
    let positional ← patterns .test ps
    let named := (attrs.zip (← patterns .test kps)).map fun (a, p) => a ++ "=" ++ p
    return head ++ "(" ++ Text.join ", " (positional ++ named) ++ ")"
  | .star _ name => return "*" ++ name.getD "_"
  | .capture _ none name => return name.getD "_"
  | .capture _ (some p) name => do
    let inner ← pattern .bitOr p
    return wrap .test place (inner ++ lead " as " name)
  | .either _ ps => do
    return wrap .bitOr place (Text.join " | " (← patterns (Strength.next .bitOr) ps))

def patterns (place : Strength) : List Pattern → Except Fault (List String)
  | [] => return []
  | p :: rest => return (← pattern place p) :: (← patterns place rest)

end

def aliasText (a : Alias) : String := a.name ++ lead " as " a.asName

def withItem (w : WithItem) : Except Fault String := do
  let c ← expr false .test w.context
  return c ++ lead " as " (← optional false w.vars)

def simple : Simple → Except Fault String
  | .ret value => do return "return" ++ lead " " (← optional false value)
  | .delete targets => do return "del " ++ Text.join ", " (← exprs false .test targets)
  | .assign targets value => do
    let ts ← exprs false .tuple targets
    return String.join (ts.map (· ++ " = ")) ++ (← expr false .test value)
  | .augAssign target op value => do
    let t ← expr false .test target
    return t ++ " " ++ binarySign op ++ "= " ++ (← expr false .test value)
  | .annAssign target hint value isSimple => do
    let t ← expr false .test target
    let isName := match target with
      | .name .. => true
      | _ => false
    let t := if !isSimple && isName then "(" ++ t ++ ")" else t
    let a ← expr false .test hint
    return t ++ ": " ++ a ++ lead " = " (← optional false value)
  | .raise exc cause => do
    let e ← optional false exc
    return "raise" ++ lead " " e ++ lead " from " (← optional false cause)
  | .assert test msg => do
    let t ← expr false .test test
    return "assert " ++ t ++ lead ", " (← optional false msg)
  | .importNames names => return "import " ++ Text.join ", " (names.map aliasText)
  | .importFrom module names level =>
    return "from " ++ String.join (List.replicate level ".") ++ module.getD "" ++ " import " ++
      Text.join ", " (names.map aliasText)
  | .global names => return "global " ++ Text.join ", " names
  | .nonlocal names => return "nonlocal " ++ Text.join ", " names
  | .expr value => expr false .yield value
  | .pass => return "pass"
  | .breakLoop => return "break"
  | .continueLoop => return "continue"

def docText? : Block → Option String
  | .simple _ (.expr (.constant _ (.text marked value))) :: _ =>
    some ((if marked then "u" else "") ++ spareText docQuotes value)
  | _ => none

def documented (depth : Nat) (body : Block) (lines : List String) : List String :=
  match docText? body with
  | some doc => line depth doc :: lines.drop 1
  | none => lines

def decoratorLines (depth : Nat) (decorators : List Expr) : Except Fault (List String) := do
  return (← exprs false .test decorators).map fun d => line depth ("@" ++ d)

def functionHead (h : FunctionHead) : Except Fault String := do
  let ps ← params false h.params
  let returns ← optional false h.returns
  return (if h.isAsync then "async def " else "def ") ++ h.name ++ "(" ++ ps ++ ")" ++ lead " -> " returns ++ ":"

def classHead (h : ClassHead) : Except Fault String := do
  let args := (← exprs false .test h.bases) ++ (← keywords false h.keywords)
  return "class " ++ h.name ++ (if args.isEmpty then "" else "(" ++ Text.join ", " args ++ ")") ++ ":"

mutual

def stmt (depth : Nat) (cond : String) : Stmt → Except Fault (List String)
  | .simple _ s => do return [line depth (← simple s)]
  | .func _ head body => do
    let decorators ← decoratorLines depth head.decorators
    let h ← functionHead head
    let inner ← block (depth + 1) body
    return "" :: decorators ++ line depth h :: documented (depth + 1) body inner
  | .klass _ head body => do
    let decorators ← decoratorLines depth head.decorators
    let h ← classHead head
    let inner ← block (depth + 1) body
    return "" :: decorators ++ line depth h :: documented (depth + 1) body inner
  | .ifElse _ test body orelse => do
    let t ← expr false .test test
    let inner ← block (depth + 1) body
    return line depth (cond ++ " " ++ t ++ ":") :: inner ++ (← branches depth orelse)
  | .forLoop _ isAsync target iter body orelse => do
    let t ← expr false .tuple target
    let i ← expr false .test iter
    let inner ← block (depth + 1) body
    let head := (if isAsync then "async for " else "for ") ++ t ++ " in " ++ i ++ ":"
    return line depth head :: inner ++ (← underHead depth "else:" orelse)
  | .whileLoop _ test body orelse => do
    let t ← expr false .test test
    let inner ← block (depth + 1) body
    return line depth ("while " ++ t ++ ":") :: inner ++ (← underHead depth "else:" orelse)
  | .withBlock _ isAsync items body => do
    let is ← items.mapM withItem
    let head := (if isAsync then "async with " else "with ") ++ Text.join ", " is ++ ":"
    return line depth head :: (← block (depth + 1) body)
  | .matchOn _ subject cases => do
    let s ← expr false .test subject
    return line depth ("match " ++ s ++ ":") :: (← matchCases (depth + 1) cases)
  | .tryBlock _ isStar body handlers orelse finalbody => do
    let inner ← block (depth + 1) body
    let hs ← handlerLines depth isStar handlers
    let els ← underHead depth "else:" orelse
    return line depth "try:" :: inner ++ hs ++ els ++ (← underHead depth "finally:" finalbody)

def block (depth : Nat) : List Stmt → Except Fault (List String)
  | [] => return []
  | s :: rest => return (← stmt depth "if" s) ++ (← block depth rest)

def underHead (depth : Nat) (head : String) : List Stmt → Except Fault (List String)
  | [] => return []
  | s :: rest => do
    let first ← stmt (depth + 1) "if" s
    return line depth head :: first ++ (← block (depth + 1) rest)

-- A condition that is the whole alternative of another one is written as a further branch.
def branches (depth : Nat) : List Stmt → Except Fault (List String)
  | [] => return []
  | s :: rest => do
    match s, rest with
    | .ifElse .., [] => stmt depth "elif" s
    | _, _ =>
      let first ← stmt (depth + 1) "if" s
      return line depth "else:" :: first ++ (← block (depth + 1) rest)

def matchCases (depth : Nat) : List MatchCase → Except Fault (List String)
  | [] => return []
  | .mk _ p guard body :: rest => do
    let head ← pattern .test p
    let g ← optional false guard
    let inner ← block (depth + 1) body
    return line depth ("case " ++ head ++ lead " if " g ++ ":") :: inner ++ (← matchCases depth rest)

def handlerLines (depth : Nat) (isStar : Bool) : List Handler → Except Fault (List String)
  | [] => return []
  | .mk _ type name body :: rest => do
    let t ← optional false type
    let inner ← block (depth + 1) body
    let head := (if isStar then "except*" else "except") ++ lead " " t ++ lead " as " name ++ ":"
    return line depth head :: inner ++ (← handlerLines depth isStar rest)

end

def trimFirst : List String → List String
  | "" :: rest => rest
  | lines => lines

end Whittle.Render

namespace Whittle

def Module.render (m : Module) : Except Render.Fault String := do
  let lines ← Render.block 0 m.body
  return Text.join "\n" (Render.trimFirst (Render.documented 0 m.body lines)) ++ "\n"

end Whittle
