import Whittle.Number.Binary64
import Whittle.Number.Integer

namespace Whittle.Binary64

def atExponent (negative : Bool) (mantissa : Nat) (exponent low : Int) : Int :=
  let n : Int := (mantissa * Nat.pow 2 (exponent - low).toNat : Nat)
  if negative then -n else n

def ofScaled (n exponent : Int) : Binary64 :=
  if 0 ≤ exponent then ofRatio (n < 0) (n.natAbs * Nat.pow 2 exponent.toNat) 1
  else ofRatio (n < 0) n.natAbs (Nat.pow 2 (-exponent).toNat)

-- Only zeros that are both negative have a negative sum.
def add : Binary64 → Binary64 → Binary64
  | .finite s m e, .finite t n f =>
    let low := min e f
    let total := atExponent s m e low + atExponent t n f low
    if total == 0 then .finite (s && t && m == 0) 0 0 else ofScaled total low
  | .nan, _ => .nan
  | _, .nan => .nan
  | .infinite s, .infinite t => if s == t then .infinite s else .nan
  | .infinite s, _ => .infinite s
  | _, .infinite t => .infinite t

def mul : Binary64 → Binary64 → Binary64
  | .finite s m e, .finite t n f =>
    if m * n == 0 then .finite (s != t) 0 0 else ofScaled (atExponent (s != t) (m * n) e e) (e + f)
  | .nan, _ => .nan
  | _, .nan => .nan
  | .infinite s, .finite t n _ | .finite t n _, .infinite s => if n == 0 then .nan else .infinite (s != t)
  | .infinite s, .infinite t => .infinite (s != t)

def negate : Binary64 → Binary64
  | .finite s m e => .finite (!s) m e
  | .infinite s => .infinite (!s)
  | .nan => .nan

def run? (cs : List Char) : Option (List Nat) := if cs.isEmpty then some [] else Integer.digits? true cs

def power? : List Char → Option Int
  | [] => some 0
  | _ :: '-' :: ds => (Integer.digits? true ds).map fun ds => -(Integer.ofDigits 10 ds : Int)
  | _ :: '+' :: ds => (Integer.digits? true ds).map fun ds => (Integer.ofDigits 10 ds : Int)
  | _ :: ds => (Integer.digits? true ds).map fun ds => (Integer.ofDigits 10 ds : Int)

def magnitude? (negative : Bool) (cs : List Char) : Option Binary64 := do
  match String.ofList cs with
  | "inf" | "infinity" => return .infinite negative
  | "nan" => return .nan
  | _ =>
    let mantissa := cs.takeWhile (· != 'e')
    let power ← power? (cs.drop mantissa.length)
    let whole := mantissa.takeWhile (· != '.')
    let whole' ← run? whole
    let fraction ← run? (mantissa.drop (whole.length + 1))
    if whole'.isEmpty && fraction.isEmpty then none
    else return ofDecimal negative (Integer.ofDigits 10 (whole' ++ fraction)) (power - fraction.length)

def read? (cs : List Char) : Option Binary64 :=
  match (Text.trimBy Integer.isPadding cs).map Char.toLower with
  | '-' :: rest => magnitude? true rest
  | '+' :: rest => magnitude? false rest
  | rest => magnitude? false rest

end Whittle.Binary64
