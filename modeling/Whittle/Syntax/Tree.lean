import Std.Data.HashMap
import Whittle.Syntax.Label
import Whittle.Syntax.Layout
import Whittle.Syntax.Parser.Statement
import Whittle.Syntax.Shared

namespace Whittle

-- Indices and parents stay as they are when edits change the module.
structure Arena where
  nodes : Array Node
  indices : Std.HashMap Nat Nat
  parents : Std.HashMap Nat Nat

namespace Arena

def register (a : Arena) (n : Node) : Arena :=
  match n.key? with
  | none => a
  | some k =>
    if a.indices.contains k then a
    else { a with nodes := a.nodes.push n, indices := a.indices.insert k a.nodes.size }

def indexOf? (a : Arena) (n : Node) : Option Nat := n.key?.bind fun k => a.indices[k]?

-- Records a node as the parent of its children; the last holder of a shared node wins.
def adopt (a : Arena) (n : Node) : Arena :=
  match a.indexOf? n with
  | none => a
  | some i => n.children.foldl (fun a c =>
      match a.indexOf? c with
      | some j => { a with parents := a.parents.insert j i }
      | none => a) a

def ofModule (m : Module) : Arena :=
  let order := (Node.module m).breadthFirst
  order.foldl adopt (order.foldl register ⟨#[], {}, {}⟩)

def parentOf? (a : Arena) (i : Nat) : Option Nat := a.parents[i]?

def climb (a : Arena) (p : Node → Bool) : Nat → Nat → Option Nat
  | 0, _ => none
  | fuel + 1, i =>
    match a.parentOf? i with
    | none => none
    | some j =>
      match a.nodes[j]? with
      | some n => if p n then some j else climb a p fuel j
      | none => none

-- The nearest ancestor that satisfies a condition; parents come before their children, so the climb ends.
def findParent? (a : Arena) (p : Node → Bool) (i : Nat) : Option Nat := a.climb p a.nodes.size i

end Arena

structure Tree where
  module : Module
  arena : Arena
  edits : Edits := {}
  versions : Versions := {}
  sharing : Bool := false

inductive EditError where
  | notStatement (className : String)
  | notInTree
  deriving DecidableEq, Repr

def EditError.message : EditError → String
  | .notStatement c => "Only statements can be removed or used as anchors, got " ++ c
  | .notInTree => "Node does not belong to this tree"

namespace Tree

def ofModule (m : Module) : Tree :=
  let m := m.number
  { module := m, arena := .ofModule m }

def parse (source : List Char) : Except ParseError Tree := (Module.parse source).map ofModule

def walk (t : Tree) : List Node := ((Node.Visits.mk [.module t.module] #[]).finish.getD #[]).toList

def node? (t : Tree) (i : Nat) : Option Node :=
  t.arena.nodes[i]?.map fun
    | .module _ => .module t.module
    | .stmt s => .stmt (t.versions.settle (s.size + t.versions.size) s)
    | n => n

def statementLabel (t : Tree) (n : Node) : Except EditError Nat :=
  match n with
  | .stmt s =>
    match s.label, t.arena.indexOf? n with
    | some l, some _ => .ok l
    | _, _ => .error .notInTree
  | _ => .error (.notStatement n.className)

def remove (t : Tree) (n : Node) : Except EditError Tree := do
  return { t with edits := t.edits.remove (← t.statementLabel n) }

def insertBefore (t : Tree) (stmts : Block) (anchor : Node) : Except EditError Tree := do
  return { t with edits := t.edits.insertBefore (← t.statementLabel anchor) stmts }

def isRemoved (t : Tree) (n : Node) : Bool := t.edits.isRemoved n.label

def isPending (t : Tree) : Bool := t.edits.isPending

-- Without an end to the insertions there is no result.
def apply (t : Tree) : Option (Tree × Bool) :=
  if !t.isPending then some (t, false)
  else if !t.sharing && t.edits.insertsFresh then
    (t.edits.apply t.module).map fun m =>
      ({ t with module := m, edits := {}, versions := t.versions.enterAll m }, true)
  else
    (t.edits.applyShared t.versions t.module).map fun (m, versions) =>
      ({ t with module := m, edits := {}, versions := versions, sharing := true }, true)

def render (t : Tree) : Except Render.Fault String := t.module.render

end Tree

end Whittle
