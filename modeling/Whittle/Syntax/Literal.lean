import Whittle.Number.Binary64
import Whittle.Text.Quoted

namespace Whittle

-- The value of a literal. Numbers are never negative: a sign is an operator.
inductive Literal where
  | none
  | bool (value : Bool)
  | ellipsis
  | int (value : Nat)
  | float (value : Binary64)
  | imaginary (value : Binary64)
  -- A text; `marked` when it was written with the explicit text mark.
  | text (marked : Bool) (value : Text.Points)
  | bytes (value : List Nat)
  deriving Repr, DecidableEq, Inhabited

inductive Context where
  | load | store | del
  deriving Repr, DecidableEq

inductive BoolOp where
  | and | or
  deriving Repr, DecidableEq

inductive BinaryOp where
  | add | sub | mult | matMult | div | mod | pow | lShift | rShift | bitOr | bitXor | bitAnd | floorDiv
  deriving Repr, DecidableEq

inductive UnaryOp where
  | invert | not | plus | minus
  deriving Repr, DecidableEq

inductive CompareOp where
  | eq | notEq | lt | ltE | gt | gtE | is | isNot | isIn | notIn
  deriving Repr, DecidableEq

inductive Conversion where
  | str | repr | ascii
  deriving Repr, DecidableEq

inductive Collection where
  | list | set | generator
  deriving Repr, DecidableEq

end Whittle
