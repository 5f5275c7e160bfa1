import Whittle.Syntax.FormatText
import Whittle.Syntax.Parser.Basic
import Whittle.Syntax.Target

namespace Whittle.Parser

variable (n : Nat) (rules : Rules)

def namedExpression : Parser Expr := do
  match ← peek, ← peekSecond with
  | .name id, .symbol .walrus =>
    let _ ← name
    symbol .walrus
    let value ← rules .expression
    pure (.namedExpr none (.name none id .store) value)
  | _, _ => rules .expression

def orSpread (other : Parser Expr) : Parser Expr := do
  if ← accept (.symbol .star) then
    let value ← rules .bitwiseOr
    pure (.starred none value .load)
  else other

def starNamedExpression : Parser Expr := orSpread rules (namedExpression rules)

def starExpression : Parser Expr := orSpread rules (rules .expression)

def starExpressions : Parser Expr := do
  let (values, trailing) ← commaList (starExpression rules) n
  pure (tupled values trailing)

def yieldExpression : Parser Expr := do
  word .wYield
  if ← accept (.word .wFrom) then
    pure (.yieldFrom none (← rules .expression))
  else
    pure (.yield none (← optionally (starExpressions n rules)))

def assigned : Parser Expr := do
  match ← peek with
  | .word .wYield => yieldExpression n rules
  | _ => starExpressions n rules

def starTarget : Nat → Parser Expr
  | 0 => failure
  | m + 1 => do
    if ← accept (.symbol .star) then
      let inner ← starTarget m
      StateT.lift ((Expr.starred none inner .store).toTarget? .store)
    else
      let e ← rules .primary
      StateT.lift (e.toTarget? .store)

def starTargets : Parser Expr := do
  let (values, trailing) ← commaList (starTarget rules n) n
  pure (match values, trailing with
    | [e], false => e
    | es, _ => .tuple none es .store)

def comprehension : Parser Comprehension := do
  let isAsync ← accept (.word .wAsync)
  word .wFor
  let target ← starTargets n rules
  word .wIn
  let iter ← rules .disjunction
  let ifs ← many (do word .wIf; rules .disjunction) n
  pure (.mk none target iter ifs isAsync)

def clausesAhead : Parser Bool := do
  match ← peek with
  | .word .wFor | .word .wAsync => pure true
  | _ => pure false

def comprehensions : Parser (List Comprehension) := do
  let first ← comprehension n rules
  let rest ← many (comprehension n rules) n
  pure (first :: rest)

def after (allowed : Bool) (s : Symbol) (p : Parser Expr) : Parser (Option Expr) := do
  if !allowed then return none
  if ← accept (.symbol s) then return some (← p)
  return none

-- One parameter; `annotated` when annotations may be written, `starAnnotated` when they may be starred.
def param (annotated starAnnotated withDefault : Bool) : Parser Param := do
  let id ← name
  let hint ← after annotated .colon (if starAnnotated then starExpression rules else rules .expression)
  let default ← after withDefault .assign (rules .expression)
  pure (.mk none id hint default)

def paramsEnd (annotated : Bool) : Parser Bool := do
  let t ← peek
  pure (if annotated then t = .symbol .rparen else t = .symbol .colon)

def paramComma (annotated : Bool) : Parser Unit := do
  if ← accept (.symbol .comma) then pure ()
  else if ← paramsEnd annotated then pure ()
  else failure

def kwargParam (annotated : Bool) : Parser Param := do
  symbol .doubleStar
  let p ← param rules annotated false false
  paramComma annotated
  if ← paramsEnd annotated then pure p else failure

def keywordParams (annotated : Bool) : Parser (List Param × Option Param) := do
  let params ← many (do
    let p ← param rules annotated false true
    paramComma annotated
    pure p) n
  if ← paramsEnd annotated then pure (params, none)
  else pure (params, some (← kwargParam rules annotated))

def starParams (annotated : Bool) : Parser (Option Param × List Param × Option Param) := do
  if ← paramsEnd annotated then pure (none, [], none)
  else if ← accept (.symbol .star) then
    if ← accept (.symbol .comma) then
      let (kwOnly, kwarg) ← keywordParams n rules annotated
      if kwOnly.isEmpty then failure else pure (none, kwOnly, kwarg)
    else
      let vararg ← param rules annotated true false
      paramComma annotated
      let (kwOnly, kwarg) ← keywordParams n rules annotated
      pure (some vararg, kwOnly, kwarg)
  else
    pure (none, [], some (← kwargParam rules annotated))

def defaultsAtEnd (params : List Param) : Bool :=
  (params.dropWhile (·.default.isNone)).all (·.default.isSome)

def params (annotated : Bool) : Parser Params := do
  let positional := many (do
    let p ← param rules annotated false true
    paramComma annotated
    pure p) n
  let before ← positional
  let (posOnly, args) ← (do
    if before.isEmpty then pure ([], [])
    else if ← accept (.symbol .slash) then
      paramComma annotated
      pure (before, ← positional)
    else pure ([], before) : Parser (List Param × List Param))
  if !defaultsAtEnd (posOnly ++ args) then failure
  let (vararg, kwOnly, kwarg) ← starParams n rules annotated
  pure (.mk none posOnly args vararg kwOnly kwarg)

inductive Argument where
  | positional (value : Expr)
  | spread (value : Expr)
  | keyword (name : Option String) (value : Expr)

def argument : Parser Argument := do
  if ← accept (.symbol .star) then pure (.spread (← rules .expression))
  else if ← accept (.symbol .doubleStar) then pure (.keyword none (← rules .expression))
  else match ← peek, ← peekSecond with
    | .name id, .symbol .assign =>
      let _ ← name
      symbol .assign
      pure (.keyword (some id) (← rules .expression))
    | _, _ => pure (.positional (← namedExpression rules))

-- Sorts arguments; nothing plain follows a keyword, and nothing starred follows a spread mapping.
def sortArguments : List Argument → (named spreads : Bool) → Option (List Expr × List Keyword)
  | [], _, _ => some ([], [])
  | .positional e :: rest, named, spreads =>
    if named || spreads then none
    else (sortArguments rest named spreads).map fun (as, ks) => (e :: as, ks)
  | .spread e :: rest, named, spreads =>
    if spreads then none
    else (sortArguments rest named spreads).map fun (as, ks) => (.starred none e .load :: as, ks)
  | .keyword id e :: rest, _, spreads =>
    (sortArguments rest true (spreads || id.isNone)).map fun (as, ks) => (as, .mk none id e :: ks)

def arguments : Parser (List Expr × List Keyword) := do
  match ← peek with
  | .symbol .rparen => pure ([], [])
  | _ =>
    let (args, _) ← commaList (argument rules) n
    StateT.lift (sortArguments args false false)

def callTail (func : Expr) : Parser Expr := do
  if ← accept (.symbol .rparen) then return .call none func [] []
  let first ← argument rules
  match first, ← clausesAhead with
  | .positional elt, true =>
    let generators ← comprehensions n rules
    symbol .rparen
    return .call none func [.comp none .generator elt generators] []
  | _, _ =>
    let rest ← (do
      if ← accept (.symbol .comma) then
        if (← peek) = .symbol .rparen then pure [] else pure (← commaList (argument rules) n).1
      else pure [] : Parser (List Argument))
    symbol .rparen
    let (args, keywords) ← StateT.lift (sortArguments (first :: rest) false false)
    return .call none func args keywords

def sliceBound : Parser (Option Expr) := do
  match ← peek with
  | .symbol .colon | .symbol .comma | .symbol .rbracket => pure none
  | _ => some <$> rules .expression

def sliceTail (lower : Option Expr) : Parser Expr := do
  symbol .colon
  let upper ← sliceBound rules
  let step ← (do if ← accept (.symbol .colon) then sliceBound rules else pure none : Parser (Option Expr))
  pure (.slice none lower upper step)

def sliceItem : Parser Expr := do
  match ← peek with
  | .symbol .colon => sliceTail rules none
  | .symbol .star =>
    symbol .star
    pure (.starred none (← rules .expression) .load)
  | _ =>
    let bare := (← peek) ≠ .symbol .lparen
    let e ← namedExpression rules
    match e, ← peek with
    | .namedExpr .., .symbol .colon => if bare then failure else sliceTail rules (some e)
    | _, .symbol .colon => sliceTail rules (some e)
    | _, _ => pure e

def slices : Parser Expr := do
  let (items, trailing) ← commaList (sliceItem rules) n
  pure (match items, trailing with
    | [e], false => if e.isStarred then .tuple none [e] .load else e
    | es, _ => .tuple none es .load)

def parenthesised : Parser Expr := do
  if ← accept (.symbol .rparen) then return .tuple none [] .load
  if (← peek) = .word .wYield then
    let e ← yieldExpression n rules
    symbol .rparen
    return e
  let first ← starNamedExpression rules
  if ← clausesAhead then
    if first.isStarred then failure
    let generators ← comprehensions n rules
    symbol .rparen
    return .comp none .generator first generators
  if ← accept (.symbol .comma) then
    if ← accept (.symbol .rparen) then return .tuple none [first] .load
    let (rest, _) ← commaList (starNamedExpression rules) n
    symbol .rparen
    return .tuple none (first :: rest) .load
  if first.isStarred then failure
  symbol .rparen
  return first

def bracketed : Parser Expr := do
  if ← accept (.symbol .rbracket) then return .list none [] .load
  let first ← starNamedExpression rules
  if ← clausesAhead then
    if first.isStarred then failure
    let generators ← comprehensions n rules
    symbol .rbracket
    return .comp none .list first generators
  if ← accept (.symbol .comma) then
    if ← accept (.symbol .rbracket) then return .list none [first] .load
    let (rest, _) ← commaList (starNamedExpression rules) n
    symbol .rbracket
    return .list none (first :: rest) .load
  symbol .rbracket
  return .list none [first] .load

def dictItem : Parser DictItem := do
  if ← accept (.symbol .doubleStar) then pure (.spread (← rules .bitwiseOr))
  else
    let key ← rules .expression
    symbol .colon
    pure (.pair key (← rules .expression))

def dictTail (first : DictItem) : Parser Expr := do
  let rest ← (do
    if ← accept (.symbol .comma) then
      if (← peek) = .symbol .rbrace then pure [] else pure (← commaList (dictItem rules) n).1
    else pure [] : Parser (List DictItem))
  symbol .rbrace
  return .dict none (first :: rest)

def isKey : Expr → Bool
  | .namedExpr .. | .starred .. => false
  | _ => true

def braced : Parser Expr := do
  if ← accept (.symbol .rbrace) then return .dict none []
  if (← peek) = .symbol .doubleStar then
    let first ← dictItem rules
    return ← dictTail n rules first
  -- a name bound in passing cannot be a key, but one in parentheses can
  let parenthesised := (← peek) = .symbol .lparen
  let first ← starNamedExpression rules
  if (← peek) = .symbol .colon then
    if !isKey first && !parenthesised then failure
    symbol .colon
    let value ← rules .expression
    if ← clausesAhead then
      let generators ← comprehensions n rules
      symbol .rbrace
      return .dictComp none first value generators
    return ← dictTail n rules (.pair first value)
  if ← clausesAhead then
    if first.isStarred then failure
    let generators ← comprehensions n rules
    symbol .rbrace
    return .comp none .set first generators
  let rest ← (do
    if ← accept (.symbol .comma) then
      if (← peek) = .symbol .rbrace then pure [] else pure (← commaList (starNamedExpression rules) n).1
    else pure [] : Parser (List Expr))
  symbol .rbrace
  return .set none (first :: rest)

def text : Parser RawText
  | .text raw :: rest => some (raw, rest)
  | _ => none

-- The expression embedded in a formatted text. It is read as if it stood in parentheses.
def embeddedExpression (cs : List Char) : Option Expr := do
  let tokens ← Lexer.tokens? ('(' :: cs ++ [')', '\n'])
  let (e, _) ← starExpressions n rules tokens
  pure e

def texts : Parser Expr := do
  let first ← text
  let rest ← many text n
  StateT.lift (FormatText.join (embeddedExpression n rules) (first :: rest))

def atom : Parser Expr := fun ts =>
  match ts with
  | .name id :: rest => some (.name none id .load, rest)
  | .number value :: rest => some (.constant none value, rest)
  | .text _ :: _ => texts n rules ts
  | .word .wTrue :: rest => some (.constant none (.bool true), rest)
  | .word .wFalse :: rest => some (.constant none (.bool false), rest)
  | .word .wNone :: rest => some (.constant none .none, rest)
  | .symbol .ellipsis :: rest => some (.constant none .ellipsis, rest)
  | .symbol .lparen :: rest => parenthesised n rules rest
  | .symbol .lbracket :: rest => bracketed n rules rest
  | .symbol .lbrace :: rest => braced n rules rest
  | _ => none

def trailers : Nat → Expr → Parser Expr
  | 0, e => pure e
  | m + 1, e => do
    match ← peek with
    | .symbol .dot =>
      symbol .dot
      let attr ← name
      trailers m (.attribute none e attr .load)
    | .symbol .lparen =>
      symbol .lparen
      trailers m (← callTail n rules e)
    | .symbol .lbracket =>
      symbol .lbracket
      let index ← slices n rules
      symbol .rbracket
      trailers m (.subscript none e index .load)
    | _ => pure e

def primary : Parser Expr := do
  let e ← atom n rules
  trailers n rules n e

def power : Parser Expr := do
  let base ← (do
    if ← accept (.word .wAwait) then pure (.await none (← rules .primary)) else primary n rules : Parser Expr)
  if ← accept (.symbol .doubleStar) then
    pure (.binOp none base .pow (← rules .factor))
  else pure base

def factor : Parser Expr := do
  match ← peek with
  | .symbol .plus =>
    symbol .plus
    pure (.unaryOp none .plus (← rules .factor))
  | .symbol .minus =>
    symbol .minus
    pure (.unaryOp none .minus (← rules .factor))
  | .symbol .tilde =>
    symbol .tilde
    pure (.unaryOp none .invert (← rules .factor))
  | _ => power n rules

def operator (table : List (Symbol × BinaryOp)) : Parser BinaryOp
  | .symbol s :: rest => (table.lookup s).map (·, rest)
  | _ => none

def leftAssociative (table : List (Symbol × BinaryOp)) (operand : Parser Expr) : Parser Expr := do
  let first ← operand
  chain operand (operator table) (fun l op r => .binOp none l op r) n first

def term : Parser Expr :=
  leftAssociative n [(.star, .mult), (.slash, .div), (.doubleSlash, .floorDiv), (.percent, .mod), (.at, .matMult)]
    (factor n rules)

def sum : Parser Expr := leftAssociative n [(.plus, .add), (.minus, .sub)] (term n rules)

def shift : Parser Expr := leftAssociative n [(.lshift, .lShift), (.rshift, .rShift)] (sum n rules)

def bitwiseAnd : Parser Expr := leftAssociative n [(.amp, .bitAnd)] (shift n rules)

def bitwiseXor : Parser Expr := leftAssociative n [(.caret, .bitXor)] (bitwiseAnd n rules)

def bitwiseOr : Parser Expr := leftAssociative n [(.bar, .bitOr)] (bitwiseXor n rules)

def compareOp : Parser CompareOp
  | .symbol .equal :: rest => some (.eq, rest)
  | .symbol .notEqual :: rest => some (.notEq, rest)
  | .symbol .less :: rest => some (.lt, rest)
  | .symbol .lessEq :: rest => some (.ltE, rest)
  | .symbol .greater :: rest => some (.gt, rest)
  | .symbol .greaterEq :: rest => some (.gtE, rest)
  | .word .wIn :: rest => some (.isIn, rest)
  | .word .wNot :: .word .wIn :: rest => some (.notIn, rest)
  | .word .wIs :: .word .wNot :: rest => some (.isNot, rest)
  | .word .wIs :: rest => some (.is, rest)
  | _ => none

def comparison : Parser Expr := do
  let left ← bitwiseOr n rules
  let links ← many (do let op ← compareOp; let right ← bitwiseOr n rules; pure (op, right)) n
  pure (if links.isEmpty then left else .compare none left (links.map (·.1)) (links.map (·.2)))

def inversion : Parser Expr := do
  if ← accept (.word .wNot) then pure (.unaryOp none .not (← rules .inversion))
  else comparison n rules

def logical (w : Word) (op : BoolOp) (operand : Parser Expr) : Parser Expr := do
  let first ← operand
  let rest ← many (do word w; operand) n
  pure (if rest.isEmpty then first else .boolOp none op (first :: rest))

def conjunction : Parser Expr := logical n .wAnd .and (inversion n rules)

def disjunction : Parser Expr := logical n .wOr .or (conjunction n rules)

def expression : Parser Expr := do
  if ← accept (.word .wLambda) then
    let ps ← params n rules false
    symbol .colon
    return .lambda none ps (← rules .expression)
  let body ← disjunction n rules
  let choice ← optionally (do
    word .wIf
    let test ← disjunction n rules
    word .wElse
    pure (Expr.ifExp none test body (← rules .expression)))
  return choice.getD body

def expressions : Parser Expr := do
  let (values, trailing) ← commaList (rules .expression) n
  pure (tupled values trailing)

end Whittle.Parser
