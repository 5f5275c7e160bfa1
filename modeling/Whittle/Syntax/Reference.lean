import Whittle.Syntax.Expr
import Whittle.Text.Blank

namespace Whittle.Expr

def chain? : Expr → Option (List String)
  | .name _ id _ => some [id]
  | .attribute _ value attr _ => value.chain?.map (attr :: ·)
  | _ => none

def dottedName? (e : Expr) : Option String := e.chain?.map fun parts => Text.join "." parts.reverse

def lastName : Expr → String
  | .name _ id _ => id
  | .attribute _ _ attr _ => attr
  | _ => ""

def decoratorName : Expr → String
  | .call _ func _ _ => func.lastName
  | e => e.lastName

def callsName (names : List String) : Expr → Bool
  | .call _ (.name _ id _) _ _ => names.contains id
  | _ => false

def isSuperCall (e : Expr) : Bool := e.callsName ["super"]

end Whittle.Expr
