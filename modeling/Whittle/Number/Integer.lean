import Whittle.Text.Blank
import Whittle.Text.Digit

namespace Whittle.Integer

def maxDigits : Nat := 4300

-- Blanks around a number. The separator controls 0x1C to 0x1F do not count here.
def isPadding (c : Char) : Bool := Text.isBlank c && !(0x1c ≤ c.toNat && c.toNat ≤ 0x1f)

-- The digits of a number with underscores between them; `fresh` when the last character was no digit.
def digits? : (fresh : Bool) → List Char → Option (List Nat)
  | fresh, [] => if fresh then none else some []
  | fresh, c :: rest =>
    if c == '_' then if fresh then none else digits? true rest
    else do
      let d ← Text.digitValue? c
      return d :: (← digits? false rest)

def ofDigits (base : Nat) (ds : List Nat) : Nat := ds.foldl (fun n d => n * base + d) 0

def magnitude? (cs : List Char) : Option Nat := do
  let ds ← digits? true cs
  if maxDigits < ds.length then none else some (ofDigits 10 ds)

def read? (cs : List Char) : Option Int :=
  match Text.trimBy isPadding cs with
  | '-' :: rest => (magnitude? rest).map fun n => -(n : Int)
  | '+' :: rest => (magnitude? rest).map Int.ofNat
  | rest => (magnitude? rest).map Int.ofNat

end Whittle.Integer
