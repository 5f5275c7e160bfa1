import Whittle.Callable.Signature
import Whittle.Syntax.Node

namespace Whittle

abbrev Table (α : Type) := List (String × α)

namespace Table

variable {α : Type}

-- Enters a value, made from the one that was there.
def enter (name : String) (f : Option α → α) : Table α → Table α
  | [] => [(name, f none)]
  | (n, a) :: rest => if n == name then (n, f (some a)) :: rest else (n, a) :: enter name f rest

def add (t : Table (List α)) (name : String) (a : α) : Table (List α) := enter name (fun old => old.getD [] ++ [a]) t

def find? (t : Table α) (name : String) : Option α := t.lookup name

def has (t : Table α) (name : String) : Bool := (t.find? name).isSome

end Table

structure ClassEntry where
  name : String
  label : Label
  head : ClassHead
  -- The names of the bases; a base that is not a plain name is empty.
  bases : List String
  methods : Table (List FunctionHead)
  -- The names that the body binds by anything but a method.
  assigned : List String

structure Namespace where
  functions : Table (List FunctionHead)
  classes : Table ClassEntry
  rebound : List String

def firstPart (name : String) : String := String.ofList (name.toList.takeWhile (· != '.'))

namespace Node

def boundName? : Node → Option String
  | .expr (.name _ id .store) | .expr (.name _ id .del) => some id
  | .alias a => some (firstPart (a.asName.getD a.name))
  | _ => none

def definedName? : Node → Option String
  | .stmt (.func _ head _) => some head.name
  | .stmt (.klass _ head _) => some head.name
  | _ => none

def globalNames : Node → List String
  | .stmt (.simple _ (.global names)) => names
  | _ => []

end Node

namespace ClassEntry

def baseName : Expr → String
  | .name _ id _ => id
  | _ => ""

def bindings (s : Stmt) : List String :=
  match s with
  | .func .. => []
  | s => (Node.stmt s).walk.filterMap fun n => n.boundName?.or n.definedName?

def addMethod (methods : Table (List FunctionHead)) : Stmt → Table (List FunctionHead)
  | .func _ head _ => methods.add head.name head
  | _ => methods

def of (l : Label) (head : ClassHead) (body : Block) : ClassEntry where
  name := head.name
  label := l
  head := head
  bases := head.bases.map baseName
  methods := body.foldl addMethod []
  assigned := body.flatMap bindings

def binds (c : ClassEntry) (name : String) : Bool := c.methods.has name || c.assigned.contains name

end ClassEntry

namespace Namespace

def addStmt (ns : Namespace) : Stmt → Namespace
  | .func _ head _ => { ns with functions := ns.functions.add head.name head }
  | .klass l head body =>
    { ns with classes := Table.enter head.name (fun _ => ClassEntry.of l head body) ns.classes }
  | _ => ns

def nestedName? (l : Node.Located) : Option String :=
  match l.ancestors with
  | .module _ :: _ => none
  | _ => l.node.definedName?

-- The names that something other than a definition at module level binds.
def reboundIn (m : Module) : List String :=
  (Node.module m).located.flatMap fun l =>
    l.node.boundName?.toList ++ l.node.globalNames ++ (nestedName? l).toList

def ofModule (m : Module) : Namespace :=
  m.body.foldl addStmt ⟨[], [], reboundIn m⟩

def isClass (ns : Namespace) (name : String) : Bool := ns.classes.has name && !ns.rebound.contains name

end Namespace

end Whittle
