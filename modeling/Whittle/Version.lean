import Whittle.Document.Value
import Whittle.Number.Integer

namespace Whittle.Version

structure Invalid where
  token : Value

def Invalid.message (e : Invalid) : String := "Invalid version: " ++ e.token.quoted

-- The id of the numbers of a version. A single number is the id; numbers after the third do not count.
def pack : List (List Char) → Option Int
  | [single] => Integer.read? single
  | [major, minor] => do return (← Integer.read? major) * 10000 + (← Integer.read? minor) * 100
  | major :: minor :: patch :: _ => do
    return (← Integer.read? major) * 10000 + (← Integer.read? minor) * 100 + (← Integer.read? patch)
  | [] => none

-- The id of a text: what follows a dash does not count.
def idOfText? (text : List Char) : Option Int :=
  pack (Text.splitAt '.' ((Text.trim text).takeWhile (· != '-')))

def id (token : Value) : Except Invalid Int :=
  match idOfText? token.plain.toList with
  | some n => .ok n
  | none => .error ⟨token⟩

def dottedParts : Nat → List Char → List Char
  | 0, _ => []
  | n + 1, '.' :: rest =>
    match rest.takeWhile Text.isDecimal with
    | [] => []
    | ds => '.' :: ds ++ dottedParts n (rest.drop ds.length)
  | _, _ => []

def leading? (cs : List Char) : Option (List Char) :=
  match cs.takeWhile Text.isDecimal with
  | [] => none
  | ds => some (ds ++ dottedParts 2 (cs.drop ds.length))

def operators : List (List Char) := [['>', '='], ['~', '='], ['=', '='], ['>']]

def clauseAt? (cs : List Char) : Option (List Char × Nat) :=
  operators.findSome? fun op =>
    if op.isPrefixOf cs then
      let after := cs.drop op.length
      let bare := after.dropWhile Text.isBlank
      (leading? bare).map fun v => (v, op.length + (after.length - bare.length) + v.length)
    else none

-- The bounds of all clauses, from left to right; `skip` characters belong to a clause already read.
def bounds : (skip : Nat) → List Char → List (List Char)
  | _, [] => []
  | skip + 1, _ :: rest => bounds skip rest
  | 0, c :: rest =>
    match clauseAt? (c :: rest) with
    | some (v, n) => v :: bounds (n - 1) rest
    | none => bounds 0 rest

def leastBy {α : Type} (least : α) (key : Int) : List (α × Int) → α
  | [] => least
  | (a, k) :: rest => if k < key then leastBy a k rest else leastBy least key rest

def lowerBound (spec : String) : Except Invalid (Option String) := do
  let keyed ← (bounds 0 spec.toList).mapM fun v => do
    let s := String.ofList v
    return (s, ← id (.text s))
  match keyed with
  | [] => return none
  | (v, k) :: rest => return some (leastBy v k rest)

end Whittle.Version
