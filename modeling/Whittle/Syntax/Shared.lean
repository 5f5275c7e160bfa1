import Std.Data.HashMap
import Whittle.Syntax.Edits

namespace Whittle

-- A statement with a label is one thing wherever it stands: what an edit makes of it shows in every place.
abbrev Versions := Std.HashMap Nat Stmt

namespace Versions

def latest (v : Versions) (s : Stmt) : Stmt :=
  match s.label with
  | some l => v.getD l s
  | none => s

def settle (v : Versions) : Nat → Stmt → Stmt
  | 0, s => v.latest s
  | fuel + 1, s => Id.run ((v.latest s).mapBlocksM fun b => pure (b.map (settle v fuel)))

def enter (v : Versions) (s : Stmt) : Versions :=
  match s.label with
  | some l => v.insert l s
  | none => v

def enterAll (v : Versions) (m : Module) : Versions :=
  (Node.module m).walk.foldl (fun v n =>
    match n with
    | .stmt s => v.enter s
    | _ => v) v

end Versions

namespace Edits

def visitShared (e : Edits) : Nat → Stmt → StateT Versions Option Block
  | 0, _ => failure
  | fuel + 1, s => do
    let s := (← get).latest s
    let front := (← (e.before s.label).mapM (visitShared e fuel)).flatten
    if e.isRemoved s.label then return front
    let s' ← s.mapBlocksM fun b => do return (← b.mapM (visitShared e fuel)).flatten
    modify (·.enter s')
    return front ++ [s']

def applyShared (e : Edits) (v : Versions) (m : Module) : Option (Module × Versions) := do
  let fuel := e.fuelFor m + v.size
  let (blocks, v) ← (m.body.mapM (e.visitShared fuel)).run v
  let settled := blocks.flatten.map (v.settle fuel)
  let filled := Module.fill ⟨settled⟩
  return (filled, v.enterAll filled)

def insertsFresh (e : Edits) : Bool := e.inserted.all fun (_, b) => b.all (·.label.isNone)

end Edits

end Whittle
