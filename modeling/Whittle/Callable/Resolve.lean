import Whittle.Callable.Builtin
import Whittle.Callable.Namespace
import Whittle.Callable.TypeHint
import Whittle.Syntax.Cut

namespace Whittle

structure Method where
  owner : String
  name : String
  variants : List Variant

inductive Callee where
  | function (name : String) (variants : List Variant)
  | method (m : Method)
  | union (name : String) (members : List Method)

def Callee.variants : Callee → List Variant
  | .function _ vs => vs
  | .method m => m.variants
  | .union _ ms => ms.flatMap Method.variants

inductive CallKind where
  | function | method | static
  deriving DecidableEq, Repr

structure Scope where
  node : Node
  params : Params
  isLambda : Bool

def Scope.ofNode? : Node → Option Scope
  | .stmt (.func l head body) => some ⟨.stmt (.func l head body), head.params, false⟩
  | .expr (.lambda l ps body) => some ⟨.expr (.lambda l ps body), ps, true⟩
  | _ => none

def Node.cut (cuts : Cuts) : Node → Node
  | .stmt s => .stmt (s.cut cuts)
  | .expr e => .expr (e.cut cuts)
  | n => n

namespace Scope

def enclosing (above : List Node) : List Scope := above.filterMap ofNode?

-- Whether a name is assigned inside, arguments that have been cut left out.
def assigns (s : Scope) (cuts : Cuts) (name : String) : Bool :=
  (s.node.cut cuts).walk.any fun
    | .expr (.name _ id .store) => id == name
    | _ => false

def binds (s : Scope) (cuts : Cuts) (name : String) : Bool := s.params.names.contains name || s.assigns cuts name

def hint? (s : Scope) (name : String) : Option Expr :=
  ((s.params.positional ++ s.params.kwOnly).find? fun p => p.name == name).bind Param.hint

end Scope

namespace Namespace

def firstOfBases (ns : Namespace) (search : String → StateM (List String) (Option (List FunctionHead))) :
    List String → StateM (List String) (Option (List FunctionHead))
  | [] => return none
  | base :: rest => do
    if base == "object" then firstOfBases ns search rest
    else if !ns.classes.has base then return none
    else
      match ← search base with
      | some defs => return some defs
      | none => firstOfBases ns search rest

-- The definitions of a method, depth first through the bases; the state holds the classes already seen.
def searchMethod (ns : Namespace) (method : String) : Nat → String → StateM (List String) (Option (List FunctionHead))
  | 0, _ => return none
  | fuel + 1, className => do
    let some c := ns.classes.find? className | return none
    if (← get).contains className then return none
    modify (className :: ·)
    if c.assigned.contains method then return none
    if let some defs := c.methods.find? method then return some defs
    if method == "__init__" && !c.head.decorators.isEmpty then return none
    ns.firstOfBases (searchMethod ns method fuel) c.bases

-- The definitions of a method on a class; no class is searched twice, so their number bounds the depth.
def lookupMethod (ns : Namespace) (className method : String) : Option (List FunctionHead) :=
  (searchMethod ns method (ns.classes.length + 1) className []).1

-- A method on a class; `bound` when the receiver fills the first parameter of an instance method.
def method? (ns : Namespace) (className method : String) (bound : Bool) : Option Method := do
  let defs ← ns.lookupMethod className method
  let last ← defs.getLast?
  if !defs.all FunctionHead.isNeutral then none
  else
    let dropFirst := match last.binding with
      | .static => false
      | .onClass => true
      | .onInstance => bound
    some ⟨className, method, variantsOf defs dropFirst⟩

def collectAncestors (ns : Namespace) : Nat → List String → String → List String
  | 0, seen, _ => seen
  | fuel + 1, seen, className =>
    match ns.classes.find? className with
    | none => seen
    | some c =>
      if seen.contains className then seen
      else c.bases.foldl (fun seen base =>
        if ns.classes.has base then collectAncestors ns fuel seen base else seen) (className :: seen)

def ancestors (ns : Namespace) (className : String) : List String :=
  ns.collectAncestors (ns.classes.length + 1) [] className

def isOverridden (ns : Namespace) (className method : String) : Bool :=
  ns.classes.any fun (_, c) =>
    c.name != className && (ns.ancestors c.name).contains className && c.binds method

def kindOf (ns : Namespace) : (func : Expr) → CallKind
  | .attribute _ (.name _ id _) _ _ => if ns.isClass id then .static else .method
  | .attribute _ value _ _ => if value.callsName ["super", "type"] then .static else .method
  | _ => .function

def resolveName (ns : Namespace) (name : String) : Option Callee :=
  if ns.rebound.contains name then none
  else
    match ns.functions.find? name, ns.classes.find? name with
    | some defs, _ => if defs.all FunctionHead.isNeutral then some (.function name (variantsOf defs false)) else none
    | none, some c =>
      -- decorators and keywords of a class may generate its initialiser
      if !c.head.decorators.isEmpty || !c.head.keywords.isEmpty then none
      else (ns.method? name "__init__" true).map .method
    | none, none => (Builtin.variant? name).map fun v => .function name [v]

def resolveOnInstance (ns : Namespace) (className method : String) : Option Method :=
  if ns.isOverridden className method then none else ns.method? className method true

def resolveOnReceiver (ns : Namespace) (owner : Scope) (holder : Option Node) (receiver method : String) :
    Option Callee :=
  match holder with
  | some (.stmt (.klass l head _)) => do
    let c ← ns.classes.find? head.name
    let first ← owner.params.positional.head?
    if c.label != l || first.name != receiver then none
    else (ns.resolveOnInstance head.name method).map .method
  | _ => none

def resolveOnClasses (ns : Namespace) (classNames : List String) (method : String) : Option Callee := do
  if classNames.isEmpty || !classNames.all ns.isClass then none
  else
    match ← classNames.eraseDups.mapM fun c => ns.resolveOnInstance c method with
    | [m] => some (.method m)
    | ms => some (.union method ms)

def resolveAttribute (ns : Namespace) (cuts : Cuts) (above : List Node) (receiver method : String) :
    Except ParseError (Option Callee) :=
  if ns.isClass receiver then .ok ((ns.method? receiver method false).map .method)
  else
    match above.dropWhile fun n => (Scope.ofNode? n).isNone with
    | [] => .ok none
    | node :: outer =>
      match Scope.ofNode? node with
      | none => .ok none
      | some owner =>
        if owner.isLambda then .ok none
        else if receiver == "self" || receiver == "cls" then
          .ok (ns.resolveOnReceiver owner outer.head? receiver method)
        else
          match owner.hint? receiver with
          | none => .ok none
          | some hint =>
            if owner.assigns cuts receiver then .ok none
            else do
              let names ← TypeHint.names hint
              return ns.resolveOnClasses (names.filter (· != "None")) method

-- A call is resolved only where every signature that it may reach is known.
def resolve (ns : Namespace) (cuts : Cuts) (above : List Node) : (func : Expr) → Except ParseError (Option Callee)
  | .name _ id _ =>
    .ok (if (Scope.enclosing above).any fun s => s.binds cuts id then none else ns.resolveName id)
  | .attribute _ (.name _ receiver _) method _ => ns.resolveAttribute cuts above receiver method
  | _ => .ok none

structure CallSite where
  arguments : Nat
  kind : CallKind
  callee : Option Callee

def callSite? (ns : Namespace) (l : Node.Located) : Except ParseError (Option CallSite) :=
  match l.node with
  | .expr (.call _ func args _) => do return some ⟨args.length, ns.kindOf func, ← ns.resolve [] l.ancestors func⟩
  | _ => .ok none

def callSites (ns : Namespace) (m : Module) : Except ParseError (List CallSite) :=
  (Node.module m).located.filterMapM ns.callSite?

end Namespace

end Whittle
