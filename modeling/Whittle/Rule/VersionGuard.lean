import Whittle.Failure
import Whittle.Rule.Definition
import Whittle.Syntax.Edits
import Whittle.Syntax.Reference

namespace Whittle

inductive GuardAction where
  | drop | hoist
  deriving DecidableEq, Repr

-- The target is at most the literal, so a guard that asks for an older version goes away, and one that asks for the
-- literal's version or a newer one gives way to its body.
def GuardAction.of? : CompareOp → (onLeft : Bool) → Option GuardAction
  | .lt, true => some .drop
  | .lt, false => some .hoist
  | .gtE, true => some .hoist
  | .gtE, false => some .drop
  | _, _ => none

structure Guard where
  label : Nat
  action : GuardAction
  body : Block

def Guard.around? (target : Int) (mention : Expr) : (above : List Node) → Option Guard
  | .expr (.compare _ left [op] [right]) :: .stmt (.ifElse (some l) _ body []) :: _ => do
    let onLeft := left.label == mention.label
    let action ← GuardAction.of? op onLeft
    match if onLeft then right else left with
    | .constant _ (.int n) => if target ≤ n then some ⟨l, action, body⟩ else none
    | _ => none
  | _ => none

def Guard.enter (g : Guard) (e : Edits) : Edits :=
  match g.action with
  | .drop => e.remove g.label
  | .hoist => (e.insertBefore g.label g.body).remove g.label

-- How many changes a guard counts for: putting its body in place and taking it away are one each.
def Guard.weight (g : Guard) : Nat :=
  match g.action with
  | .drop => 1
  | .hoist => 2

structure Ambient where
  token : Except Failure Value
  asked : Nat := 0

structure VersionGuard where
  constant : String := "PY_VERSION_ID"
  target : Option Int := none
  known : Option Value := none

namespace VersionGuard

def ruleName : String := "remove_version_id_check"

def defaultConstant : String := "PY_VERSION_ID"

def outline : RuleOutline where
  name := ruleName
  nodeTypes := some ["Name", "Attribute"]
  definition := some
    { description := "Remove version id checks made redundant by the target version"
      samples := [
        { before := "def run():\n    if PY_VERSION_ID < 30800:\n        return\n    print('do something')\n"
          after := "def run():\n    print('do something')\n"
          options := [(.text "target_version", .text "3.8")] }] }

def constantOf (options : List (Value × Value)) : String :=
  match Value.get? options "constant_name" with
  | some v => if v.isTrue then v.plain else defaultConstant
  | none => defaultConstant

def targetOf? (options : List (Value × Value)) : Option Value :=
  match Value.get? options "target_version" with
  | some .null => none
  | v => v

def askAmbient (g : VersionGuard) (a : Ambient) : Except Failure Value × VersionGuard × Ambient :=
  match g.known with
  | some v => (.ok v, g, a)
  | none =>
    let a := { a with asked := a.asked + 1 }
    match a.token with
    | .ok .null => (.ok .null, g, a)
    | .ok v => (.ok v, { g with known := some v }, a)
    | .error e => (.error e, g, a)

def setTarget (g : VersionGuard) (token : Value) : Except Failure VersionGuard :=
  match Version.id token with
  | .ok n => .ok { g with target := some n }
  | .error e => .error (.version e)

-- Takes options. The constant is taken even if the target is then refused.
def configure (options : List (Value × Value)) (g : VersionGuard) (a : Ambient) :
    Option Failure × VersionGuard × Ambient :=
  let g := { g with constant := constantOf options }
  let (token, g, a) := match targetOf? options with
    | some v => (Except.ok v, g, a)
    | none => g.askAmbient a
  match token.bind g.setTarget with
  | .ok g => (none, g, a)
  | .error e => (some e, g, a)

def settle (g : VersionGuard) (a : Ambient) : Option Failure × VersionGuard × Ambient :=
  if g.target.isSome then (none, g, a) else g.configure [(.text "constant_name", .text g.constant)] a

def mentions (g : VersionGuard) (e : Expr) : Bool := e.dottedName? == some g.constant

end VersionGuard

end Whittle
