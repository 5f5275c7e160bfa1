import Whittle.Change
import Whittle.Rule.Basic
import Whittle.Syntax.Label
import Whittle.Syntax.Layout

namespace Whittle

structure ActiveRule where
  rule : Rule
  changes : Nat := 0

structure Draft where
  ambient : Ambient
  edits : Edits := {}
  cuts : Cuts := []

structure Step where
  rules : List ActiveRule
  draft : Draft
  failure : Option Failure := none

namespace ActiveRule

def visitGuard (g : VersionGuard) (changes : Nat) (l : Node.Located) (d : Draft) :
    ActiveRule × Draft × Option Failure :=
  let kept : ActiveRule := ⟨.versionGuard g, changes⟩
  match l.node with
  | .expr mention =>
    if !g.mentions mention then (kept, d, none)
    else
      match g.settle d.ambient with
      | (some e, g, a) => (⟨.versionGuard g, changes⟩, { d with ambient := a }, some e)
      | (none, g, a) =>
        let d := { d with ambient := a }
        match g.target.bind (Guard.around? · mention l.ancestors) with
        | some guard => (⟨.versionGuard g, changes + guard.weight⟩, { d with edits := guard.enter d.edits }, none)
        | none => (⟨.versionGuard g, changes⟩, d, none)
  | _ => (kept, d, none)

def visitCall (ns : Namespace) (changes : Nat) (l : Node.Located) (d : Draft) :
    ActiveRule × Draft × Option Failure :=
  let kept : ActiveRule := ⟨.extraArguments, changes⟩
  match l.node with
  | .expr (.call label func args _) =>
    match ExtraArguments.cut? ns d.cuts l.ancestors label func args with
    | .error e => (kept, d, some (.source e))
    | .ok none => (kept, d, none)
    | .ok (some cut) => (⟨.extraArguments, changes + 1⟩, { d with cuts := cut :: d.cuts }, none)
  | _ => (kept, d, none)

def visit (ns : Namespace) (l : Node.Located) (r : ActiveRule) (d : Draft) : ActiveRule × Draft × Option Failure :=
  match r.rule with
  | .versionGuard g => visitGuard g r.changes l d
  | .extraArguments => visitCall ns r.changes l d

def visitAll (ns : Namespace) (l : Node.Located) : List ActiveRule → Draft → Step
  | [], d => ⟨[], d, none⟩
  | r :: rest, d =>
    match r.visit ns l d with
    | (r, d, some e) => ⟨r :: rest, d, some e⟩
    | (r, d, none) =>
      let s := visitAll ns l rest d
      { s with rules := r :: s.rules }

-- Every rule sees the tree as it was read, but for arguments that have been cut already.
def traverse (ns : Namespace) : List Node.Located → List ActiveRule → Draft → Step
  | [], rules, d => ⟨rules, d, none⟩
  | l :: rest, rules, d =>
    let s := visitAll ns l rules d
    if s.failure.isSome then s else traverse ns rest s.rules s.draft

end ActiveRule

def Edits.cut (e : Edits) (cuts : Cuts) : Edits :=
  { e with inserted := e.inserted.map fun (n, b) => (n, cutBlock cuts b) }

structure Engine where
  rules : List ActiveRule
  ambient : Ambient

namespace Engine

def of (rules : List Rule) (a : Ambient) : Engine := ⟨rules.map fun r => ⟨r, 0⟩, a⟩

def applied (rules : List ActiveRule) : List String := (rules.filter fun r => r.changes != 0).map fun r => r.rule.name

def inspect (e : Engine) (m : Module) : Step :=
  ActiveRule.traverse (.ofModule m) (Node.module m).located (e.rules.map fun r => { r with changes := 0 })
    { ambient := e.ambient }

-- The module after the cuts and edits of a draft; statements that move are cut, too.
def finish (m : Module) (d : Draft) : Except Failure Module :=
  match (d.edits.cut d.cuts).apply (m.cut d.cuts) with
  | some m => .ok m
  | none => .error .endless

-- A text that cannot be read is recorded as it is.
def run (e : Engine) (path source : String) : Engine × Except Failure Change :=
  match Module.parse source.toList with
  | .error .malformed => (e, .ok { path := path, before := source, after := source, error := some "SyntaxError" })
  | .error err => (e, .error (.source err))
  | .ok m =>
    let m := m.number
    let s := e.inspect m
    let e : Engine := ⟨s.rules, s.draft.ambient⟩
    match s.failure with
    | some f => (e, .error f)
    | none =>
      match applied s.rules with
      | [] => (e, .ok { path := path, before := source, after := source })
      | names =>
        (e, do
          let m ← finish m s.draft
          match m.render with
          | .ok after => return { path := path, before := source, after := after, applied := names }
          | .error f => throw (.render f))

end Engine

end Whittle
