import Whittle.Syntax.Node
import Whittle.Syntax.Parser.Statement
import Whittle.Syntax.Reference

namespace Whittle

namespace TypeHint

-- Where the first run of surrogates stands, with its first code point; `i` code points came before.
def surrogateRun? (i : Nat) : Text.Points → Option (Nat × Nat × Nat)
  | [] => none
  | c :: rest =>
    if Text.isSurrogate c then some (i, i + (rest.takeWhile Text.isSurrogate).length, c)
    else surrogateRun? (i + 1) rest

-- Reads an expression from code points; a text that cannot be encoded is refused before it is read.
def readExpr (cs : Text.Points) : Except ParseError Expr :=
  match surrogateRun? 0 cs with
  | some (first, last, point) => .error (.surrogate first last point)
  | none => Expr.parse (cs.map Char.ofNat)

def items : Expr → List Expr
  | .tuple _ elts _ => elts
  | e => [e]

end TypeHint

-- A text that is no expression has no names.
def Expr.namesBy (e : Expr) (read : Text.Points → Except ParseError Expr) : ExceptT ParseError Option (List String) :=
  match e with
  | .name _ id _ => return [id]
  | .attribute _ value attr _ => return [value.decoratorName ++ "." ++ attr]
  | .subscript _ value index _ => do
    let base := value.decoratorName
    let items := TypeHint.items index
    if base == "Optional" then return (← (items.take 1).mapM (· |>.namesBy read)).flatten
    else if base == "Union" then return (← items.mapM (· |>.namesBy read)).flatten
    else return if base.isEmpty then [] else [base]
  | .binOp _ left .bitOr right => return (← left |>.namesBy read) ++ (← right |>.namesBy read)
  | .constant _ .none => return ["None"]
  | .constant _ (.text _ cs) =>
    match Text.trimBy Text.isBlankPoint cs with
    | [] => return []
    | bare =>
      match read bare with
      | .ok inner => inner |>.namesBy read
      | .error .malformed => return []
      | .error e => throw e
  | _ => return []
partial_fixpoint

def TypeHint.names (e : Expr) : Except ParseError (List String) := (e.namesBy readExpr).run.getD (.ok [])

end Whittle
