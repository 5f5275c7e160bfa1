import Whittle.Syntax.Reference
import Whittle.Syntax.Stmt

namespace Whittle

structure Variant where
  parameters : List String
  isVariadic : Bool
  deriving DecidableEq, Repr

inductive Binding where
  | static | onClass | onInstance
  deriving DecidableEq, Repr

namespace FunctionHead

def decoratorNames (f : FunctionHead) : List String := f.decorators.map Expr.decoratorName

-- The decorators that leave the positional signature as it is.
def neutralDecorators : List String := ["overload", "staticmethod", "classmethod", "abstractmethod"]

def isNeutral (f : FunctionHead) : Bool := f.decoratorNames.all neutralDecorators.contains

def isOverload (f : FunctionHead) : Bool := f.decoratorNames.contains "overload"

def binding (f : FunctionHead) : Binding :=
  if f.decoratorNames.contains "staticmethod" then .static
  else if f.decoratorNames.contains "classmethod" then .onClass
  else .onInstance

-- The variant of a definition; `dropFirst` leaves out a parameter that is already bound.
def variant (f : FunctionHead) (dropFirst : Bool) : Variant :=
  let names := f.params.positional.map Param.name
  ⟨if dropFirst then names.drop 1 else names, f.params.vararg.isSome⟩

end FunctionHead

-- Overloads stand for the definition that they describe; without them the last definition of a name counts.
def effective (defs : List FunctionHead) : List FunctionHead :=
  match defs.filter FunctionHead.isOverload with
  | [] => defs.getLast?.toList
  | overloads => overloads

def variantsOf (defs : List FunctionHead) (dropFirst : Bool) : List Variant :=
  (effective defs).map (·.variant dropFirst)

end Whittle
