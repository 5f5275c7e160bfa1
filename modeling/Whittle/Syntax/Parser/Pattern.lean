import Whittle.Syntax.Parser.Expression

namespace Whittle.Parser

variable (n : Nat) (rules : Rules)

def nameGoesOn : Parser Bool := do
  match ← peek with
  | .symbol .dot | .symbol .lparen | .symbol .assign => pure true
  | _ => pure false

def captureTarget : Parser String := do
  let id ← name
  if id == "_" || (← nameGoesOn) then failure else pure id

def signedNumber : Parser (Expr × Literal) := do
  let negative ← accept (.symbol .minus)
  match ← peek with
  | .number value =>
    expect (.number value)
    let e : Expr := .constant none value
    pure (if negative then .unaryOp none .minus e else e, value)
  | _ => failure

def numberPattern : Parser Expr := do
  let (left, value) ← signedNumber
  let op? ← (do
    if ← accept (.symbol .plus) then pure (some .add)
    else if ← accept (.symbol .minus) then pure (some .sub)
    else pure none : Parser (Option BinaryOp))
  match op? with
  | none => pure left
  | some op =>
    match value, ← peek with
    | .imaginary _, _ => failure
    | _, .number (.imaginary part) =>
      expect (.number (.imaginary part))
      pure (.binOp none left op (.constant none (.imaginary part)))
    | _, _ => failure

def literalExpr : Parser Expr := fun ts =>
  match ts with
  | .number _ :: _ | .symbol .minus :: _ => numberPattern ts
  | .text _ :: _ => texts n rules ts
  | .word .wNone :: rest => some (.constant none .none, rest)
  | .word .wTrue :: rest => some (.constant none (.bool true), rest)
  | .word .wFalse :: rest => some (.constant none (.bool false), rest)
  | _ => none

def literalPattern : Parser Pattern := do
  match ← literalExpr n rules with
  | .constant _ .none => pure (.singleton none .none)
  | .constant _ (.bool b) => pure (.singleton none (.bool b))
  | e => pure (.value none e)

def dotted : Parser Expr := do
  let first ← name
  let attrs ← many (do symbol .dot; name) n
  pure (attrs.foldl (fun e a => .attribute none e a .load) (.name none first .load))

def maybeStarPattern : Parser Pattern := do
  if ← accept (.symbol .star) then
    match ← peek with
    | .name "_" =>
      let _ ← name
      pure (.star none none)
    | _ => pure (.star none (some (← captureTarget)))
  else rules .pattern

def isStarPattern : Pattern → Bool
  | .star .. => true
  | _ => false

def parenthesisedPattern : Parser Pattern := do
  if ← accept (.symbol .rparen) then return .sequence none []
  let (patterns, trailing) ← commaList (maybeStarPattern rules) n
  symbol .rparen
  match patterns, trailing with
  | [p], false => if isStarPattern p then failure else return p
  | ps, _ => return .sequence none ps

def bracketedPattern : Parser Pattern := do
  if ← accept (.symbol .rbracket) then return .sequence none []
  let (patterns, _) ← commaList (maybeStarPattern rules) n
  symbol .rbracket
  return .sequence none patterns

def mappingItem : Parser (Expr × Pattern ⊕ String) := do
  if ← accept (.symbol .doubleStar) then return .inr (← captureTarget)
  let key ← (do
    match ← peek with
    | .name _ =>
      let e ← dotted n
      match e with
      | .attribute .. => pure e
      | _ => failure
    | _ => literalExpr n rules : Parser Expr)
  symbol .colon
  return .inl (key, ← rules .pattern)

def splitMapping : List (Expr × Pattern ⊕ String) → Option (List Expr × List Pattern × Option String)
  | [] => some ([], [], none)
  | [.inr rest] => some ([], [], some rest)
  | .inr _ :: _ => none
  | .inl (key, pattern) :: more =>
    (splitMapping more).map fun (ks, ps, rest) => (key :: ks, pattern :: ps, rest)

def bracedPattern : Parser Pattern := do
  if ← accept (.symbol .rbrace) then return .mapping none [] [] none
  let (items, _) ← commaList (mappingItem n rules) n
  symbol .rbrace
  let (keys, patterns, rest) ← StateT.lift (splitMapping items)
  return .mapping none keys patterns rest

def classItem : Parser (Option String × Pattern) := do
  match ← peek, ← peekSecond with
  | .name id, .symbol .assign =>
    let _ ← name
    symbol .assign
    pure (some id, ← rules .pattern)
  | _, _ => pure (none, ← rules .pattern)

def splitClass : List (Option String × Pattern) → Option (List Pattern × List String × List Pattern)
  | [] => some ([], [], [])
  | (none, p) :: more => (splitClass more).map fun (ps, as, ks) => (p :: ps, as, ks)
  | (some a, p) :: more =>
    (splitClass more).bind fun (ps, as, ks) => if ps.isEmpty then some ([], a :: as, p :: ks) else none

def namePattern : Parser Pattern := do
  if (← peek) = .name "_" then
    let _ ← name
    return .capture none none none
  let e ← dotted n
  if ← accept (.symbol .lparen) then
    let items ← (do
      if (← peek) = .symbol .rparen then pure [] else pure (← commaList (classItem rules) n).1 :
        Parser (List (Option String × Pattern)))
    symbol .rparen
    let (patterns, attrs, kwdPatterns) ← StateT.lift (splitClass items)
    return .classOf none e patterns attrs kwdPatterns
  if ← nameGoesOn then failure
  match e with
  | .name _ id _ => return .capture none none (some id)
  | _ => return .value none e

def closedPattern : Parser Pattern := fun ts =>
  match ts with
  | .name _ :: _ => namePattern n rules ts
  | .symbol .lparen :: rest => parenthesisedPattern n rules rest
  | .symbol .lbracket :: rest => bracketedPattern n rules rest
  | .symbol .lbrace :: rest => bracedPattern n rules rest
  | _ => literalPattern n rules ts

def pattern : Parser Pattern := do
  let first ← closedPattern n rules
  let rest ← many (do symbol .bar; closedPattern n rules) n
  let p := if rest.isEmpty then first else .either none (first :: rest)
  if ← accept (.word .wAs) then pure (.capture none (some p) (some (← captureTarget)))
  else pure p

def patterns : Parser Pattern := do
  let (ps, trailing) ← commaList (maybeStarPattern rules) n
  match ps, trailing with
  | [p], false => if isStarPattern p then failure else pure p
  | ps, _ => pure (.sequence none ps)

end Whittle.Parser
