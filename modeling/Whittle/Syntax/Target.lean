import Whittle.Syntax.Expr

namespace Whittle.Expr

mutual

def toTarget? (ctx : Context) : Expr → Option Expr
  | .name l id _ => some (.name l id ctx)
  | .attribute l value attr _ => some (.attribute l value attr ctx)
  | .subscript l value index _ => some (.subscript l value index ctx)
  | .list l elts _ => (toTargets? ctx elts).map fun es => .list l es ctx
  | .tuple l elts _ => (toTargets? ctx elts).map fun es => .tuple l es ctx
  | .starred l value _ =>
    match ctx, value with
    | .store, .starred .. => none
    | .store, _ => (toTarget? ctx value).map fun v => .starred l v ctx
    | _, _ => none
  | _ => none

def toTargets? (ctx : Context) : List Expr → Option (List Expr)
  | [] => some []
  | e :: rest =>
    match toTarget? ctx e, toTargets? ctx rest with
    | some t, some ts => some (t :: ts)
    | _, _ => none

end

def toSingleTarget? : Expr → Option Expr
  | .name l id _ => some (.name l id .store)
  | .attribute l value attr _ => some (.attribute l value attr .store)
  | .subscript l value index _ => some (.subscript l value index .store)
  | _ => none

def isStarred : Expr → Bool
  | .starred .. => true
  | _ => false

end Whittle.Expr
