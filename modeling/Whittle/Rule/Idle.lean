import Whittle.Rule.Basic
import Whittle.Syntax.Label
import Whittle.Syntax.Shared

namespace Whittle

inductive Misuse where
  | missing (d : RuleDuty)
  | unbound (r : RuleOutline)

def Misuse.message : Misuse → String
  | .missing d => d.missing
  | .unbound r => r.unbound

namespace RuleOutline

def describe (r : RuleOutline) : Except Misuse RuleDefinition := r.definition.elim (.error (.missing .definition)) .ok

def classes (r : RuleOutline) : Except Misuse (List String) := r.nodeTypes.elim (.error (.missing .nodeTypes)) .ok

-- The first node, by depth, of a class that a rule looks at; a rule without classes is shown the module.
def firstNode? (r : RuleOutline) (m : Module) : Option Node :=
  match r.nodeTypes with
  | none => some (.module m)
  | some types => (Node.module m).breadthFirst.find? fun n => types.contains n.className

end RuleOutline

namespace Rule

-- Shows a node to a rule that no file is bound to. A node that the rule has no interest in passes; no rule changes
-- a node this way.
def showIdle (r : Option Rule) (n : Node) : Except Misuse Unit :=
  match r, n with
  | none, _ => .error (.missing .refactor)
  | some (.versionGuard g), .expr e => if g.mentions e then .error (.unbound VersionGuard.outline) else .ok ()
  | some .extraArguments, .expr (.call _ _ args _) =>
    if ExtraArguments.isUncountable args then .ok () else .error (.unbound ExtraArguments.outline)
  | _, _ => .ok ()

end Rule

def Stmt.value? : Stmt → Option (Option Expr)
  | .simple _ (.expr e) => some (some e)
  | .simple _ (.assign _ e) => some (some e)
  | .simple _ (.augAssign _ _ e) => some (some e)
  | .simple _ (.annAssign _ _ e _) => some e
  | .simple _ (.ret e) => some e
  | _ => none

end Whittle
