import Whittle.Callable.Resolve
import Whittle.Rule.Definition

namespace Whittle.ExtraArguments

def ruleName : String := "remove_extra_arguments"

def outline : RuleOutline where
  name := ruleName
  nodeTypes := some ["Call"]
  definition := some
    { description := "Remove extra positional arguments"
      samples := [{ before := "len(\"asdf\", 1)\n", after := "len(\"asdf\")\n" }] }

def isSpread : Expr → Bool
  | .starred .. => true
  | _ => false

def isIndirect (ns : Namespace) (func : Expr) : Bool :=
  ns.kindOf func == .static &&
    match func with
    | .attribute _ (.name ..) _ _ => false
    | _ => true

def most (variants : List Variant) : Nat := variants.foldl (fun n v => max n v.parameters.length) 0

def limit? : Callee → Option Nat
  | .union .. => none
  | c => if c.variants.isEmpty || c.variants.any Variant.isVariadic then none else some (most c.variants)

def isUncountable (args : List Expr) : Bool := args.isEmpty || args.any isSpread

-- Arguments are cut only where all signatures are known and none takes any number of them.
def cut? (ns : Namespace) (cuts : Cuts) (above : List Node) (l : Label) (func : Expr) (args : List Expr) :
    Except ParseError (Option (Nat × Nat)) :=
  let args := cuts.keep l args
  if isUncountable args || isIndirect ns func then .ok none
  else do
    let callee ← ns.resolve cuts above func
    return do
      let n ← limit? (← callee)
      if n < args.length then return (← l, n) else none

end Whittle.ExtraArguments
