import Whittle.Syntax.Block
import Whittle.Syntax.Node

namespace Whittle

-- Edits take place together, so that requests see the tree as it was.
structure Edits where
  removed : List Nat := []
  -- For each anchor the statements to put before it; anchors in the order of their first request.
  inserted : List (Nat × Block) := []

namespace Edits

-- Whether a request is waiting, even one that inserts nothing.
def isPending (e : Edits) : Bool := !(e.removed.isEmpty && e.inserted.isEmpty)

def isRemoved (e : Edits) (l : Label) : Bool :=
  match l with
  | some n => e.removed.contains n
  | none => false

def before (e : Edits) (l : Label) : Block :=
  match l with
  | some n => (e.inserted.lookup n).getD []
  | none => []

def remove (e : Edits) (n : Nat) : Edits :=
  if e.removed.contains n then e else { e with removed := e.removed ++ [n] }

def extendAt (n : Nat) (stmts : Block) : List (Nat × Block) → List (Nat × Block)
  | [] => [(n, stmts)]
  | (m, old) :: rest => if m = n then (m, old ++ stmts) :: rest else (m, old) :: extendAt n stmts rest

def insertBefore (e : Edits) (n : Nat) (stmts : Block) : Edits :=
  { e with inserted := extendAt n stmts e.inserted }

-- What takes the place of a statement: the statements put before it, themselves edited, and the statement with its
-- blocks edited unless it is removed. Statements put before themselves, directly or through others, run out of
-- fuel.
def visit (e : Edits) : Nat → Stmt → Option Block
  | 0, _ => none
  | fuel + 1, s => do
    let front := (← (e.before s.label).mapM (visit e fuel)).flatten
    if e.isRemoved s.label then return front
    let s' ← s.mapBlocksM fun b => do return (← b.mapM (visit e fuel)).flatten
    return front ++ [s']

-- Fuel that only endless insertions exhaust: a statement nests at most as deep as there are nodes.
def fuelFor (e : Edits) (m : Module) : Nat :=
  e.inserted.foldl (fun total (_, b) => total + blockSize b) (blockSize m.body + 1)

def apply (e : Edits) (m : Module) : Option Module := do
  let blocks ← m.body.mapM (e.visit (e.fuelFor m))
  return Module.fill ⟨blocks.flatten⟩

end Edits

end Whittle
