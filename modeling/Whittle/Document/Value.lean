import Whittle.Document.Moment
import Whittle.Number.Binary64
import Whittle.Text.Quoted

namespace Whittle

inductive Value where
  | null
  | bool (b : Bool)
  | int (n : Int)
  | float (x : Binary64)
  | text (s : String)
  | bytes (bs : List Nat)
  | moment (m : Moment)
  | list (items : List Value)
  | tuple (items : List Value)
  | set (items : List Value)
  | mapping (entries : List (Value × Value))

instance : Inhabited Value := ⟨.null⟩

namespace Value

def boolText (b : Bool) : String := if b then "True" else "False"

mutual

def quoted : Value → String
  | .null => "None"
  | .bool b => boolText b
  | .int n => toString n
  | .float x => x.text true
  | .text s => Text.quote s
  | .bytes bs => Text.quoteBytes bs
  | .moment m => m.quoted
  | .list items => "[" ++ Text.join ", " (quotedAll items) ++ "]"
  | .tuple [item] => "(" ++ quoted item ++ ",)"
  | .tuple items => "(" ++ Text.join ", " (quotedAll items) ++ ")"
  | .set [] => "set()"
  | .set items => "\x7b" ++ Text.join ", " (quotedAll items) ++ "\x7d"
  | .mapping entries => "\x7b" ++ Text.join ", " (quotedEntries entries) ++ "\x7d"

def quotedAll : List Value → List String
  | [] => []
  | v :: rest => quoted v :: quotedAll rest

def quotedEntries : List (Value × Value) → List String
  | [] => []
  | (k, v) :: rest => (quoted k ++ ": " ++ quoted v) :: quotedEntries rest

end

def plain : Value → String
  | .text s => s
  | .moment m => m.text
  | v => v.quoted

def isTrue : Value → Bool
  | .null => false
  | .bool b => b
  | .int n => n != 0
  | .float (.finite _ m _) => m != 0
  | .float _ => true
  | .text s => !s.isEmpty
  | .bytes bs => !bs.isEmpty
  | .moment _ => true
  | .list items | .tuple items | .set items => !items.isEmpty
  | .mapping entries => !entries.isEmpty

def wholeNumber? : Value → Option Int
  | .bool b => some (if b then 1 else 0)
  | .int n => some n
  | .float x => x.toInt?
  | _ => none

-- Two keys are the same when they are equal as numbers or texts: `1`, `1.0` and `true` are one key.
def sameKey (a b : Value) : Bool :=
  match a.wholeNumber?, b.wholeNumber? with
  | some m, some n => m == n
  | some _, none | none, some _ => false
  | none, none =>
    match a, b with
    | .null, .null => true
    | .float .nan, .float .nan => false
    | .float x, .float y => x == y
    | .text s, .text t => s == t
    | .bytes s, .bytes t => s == t
    | .moment m, .moment n => m == n
    | _, _ => false

def isKey : Value → Bool
  | .list _ | .set _ | .mapping _ => false
  | _ => true

-- Enters a value under a key; a key that is there keeps its place and its first spelling.
def put (key value : Value) : List (Value × Value) → List (Value × Value)
  | [] => [(key, value)]
  | (k, v) :: rest => if k.sameKey key then (k, value) :: rest else (k, v) :: put key value rest

def distinct (entries : List (Value × Value)) : List (Value × Value) :=
  entries.foldl (fun acc (k, v) => put k v acc) []

def get? (entries : List (Value × Value)) (key : String) : Option Value :=
  (entries.find? fun (k, _) => k.sameKey (.text key)).map (·.2)

end Value

end Whittle
