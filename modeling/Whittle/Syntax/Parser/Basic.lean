import Whittle.Syntax.Stmt
import Whittle.Syntax.Token

namespace Whittle

abbrev Parser := StateT (List Token) Option

end Whittle

namespace Whittle.Parser

inductive Rule where
  | expression | disjunction | inversion | bitwiseOr | factor | primary | pattern | block
  | otherwise
  deriving DecidableEq

abbrev Rule.Result : Rule → Type
  | .pattern => Pattern
  | .block | .otherwise => Block
  | _ => Expr

-- Rules refer to each other through such a reading, so that each is an ordinary function; the recursion is tied in
-- `ruleWithin`.
abbrev Rules := (r : Rule) → Parser r.Result

def peek : Parser Token := fun ts => some (ts.headD .done, ts)

def peekSecond : Parser Token := fun ts => some ((ts.drop 1).headD .done, ts)

def expect (t : Token) : Parser Unit
  | [] => none
  | u :: rest => if u = t then some ((), rest) else none

def symbol (s : Symbol) : Parser Unit := expect (.symbol s)

def word (w : Word) : Parser Unit := expect (.word w)

def accept (t : Token) : Parser Bool
  | [] => some (false, [])
  | u :: rest => if u = t then some (true, rest) else some (false, u :: rest)

def name : Parser String
  | .name id :: rest => some (id, rest)
  | _ => none

def optionally {α : Type} (p : Parser α) : Parser (Option α) := fun ts =>
  match p ts with
  | some (a, rest) => some (some a, rest)
  | none => some (none, ts)

def many {α : Type} (p : Parser α) : Nat → Parser (List α)
  | 0 => pure []
  | n + 1 => fun ts =>
    match p ts with
    | some (a, rest) => (many p n rest).map fun (as, r) => (a :: as, r)
    | none => some ([], ts)

-- Reads values with commas between them; tells whether a last comma was left over.
def commaList {α : Type} (p : Parser α) : Nat → Parser (List α × Bool)
  | 0 => failure
  | n + 1 => do
    let a ← p
    if ← accept (.symbol .comma) then
      match ← optionally (commaList p n) with
      | some (as, trailing) => pure (a :: as, trailing)
      | none => pure ([a], true)
    else pure ([a], false)

def strictCommaList {α : Type} (p : Parser α) (n : Nat) : Parser (List α) := do
  let (as, trailing) ← commaList p n
  if trailing then failure else pure as

def chain {α β : Type} (operand : Parser α) (operator : Parser β) (combine : α → β → α → α) :
    Nat → α → Parser α
  | 0, left => pure left
  | n + 1, left => do
    match ← optionally (do let op ← operator; let right ← operand; pure (op, right)) with
    | some (op, right) => chain operand operator combine n (combine left op right)
    | none => pure left

def tupled (values : List Expr) (trailing : Bool) : Expr :=
  match values, trailing with
  | [e], false => e
  | es, _ => .tuple none es .load

end Whittle.Parser
