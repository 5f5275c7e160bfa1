import Whittle.Document.Value

namespace Whittle

structure Sample where
  before : String
  after : String
  options : List (Value × Value) := []

structure RuleDefinition where
  description : String
  samples : List Sample

inductive RuleDuty where
  | definition | nodeTypes | refactor
  deriving DecidableEq, Repr

def RuleDuty.missing : RuleDuty → String
  | .definition => "get_rule_definition() must be implemented"
  | .nodeTypes => "get_node_types() must be implemented"
  | .refactor => "refactor() must be implemented"

structure RuleOutline where
  name : String
  definition : Option RuleDefinition := none
  nodeTypes : Option (List String) := none

def RuleOutline.bare : RuleOutline := { name := "abstract" }

def RuleOutline.unbound (r : RuleOutline) : String := "Rule " ++ r.name ++ " used outside of a file traversal"

end Whittle
