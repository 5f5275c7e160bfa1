import Whittle.Syntax.Parser.Pattern
import Whittle.Text.Line

namespace Whittle.Parser

variable (n : Nat) (rules : Rules)

def statementEnd : Parser Bool := do
  match ← peek with
  | .newline | .symbol .semicolon => pure true
  | _ => pure false

def annotated (target : Expr) (isSimple : Bool) : Parser Simple := do
  symbol .colon
  let hint ← rules .expression
  let value ← (do
    if ← accept (.symbol .assign) then some <$> assigned n rules else pure none : Parser (Option Expr))
  pure (.annAssign target hint value isSimple)

def augmented : Parser BinaryOp
  | .symbol (.augmented op) :: rest => some (op, rest)
  | _ => none

def assignment : Parser Simple := do
  let parenthesised := (← peek) = .symbol .lparen
  let first ← assigned n rules
  match ← peek with
  | .symbol .colon =>
    let target ← StateT.lift first.toSingleTarget?
    let isName := match target with
      | .name .. => true
      | _ => false
    annotated n rules target (isName && !parenthesised)
  | .symbol .assign =>
    let values ← many (do symbol .assign; assigned n rules) n
    let all := first :: values
    match all.getLast? with
    | none => failure
    | some value =>
      let targets ← StateT.lift (Expr.toTargets? .store all.dropLast)
      pure (.assign targets value)
  | .symbol (.augmented _) =>
    let target ← StateT.lift first.toSingleTarget?
    let op ← augmented
    pure (.augAssign target op (← assigned n rules))
  | _ => pure (.expr first)

def names : Parser (List String) := strictCommaList name n

def dottedName : Parser String := do
  let first ← name
  let rest ← many (do symbol .dot; name) n
  pure (rest.foldl (fun s a => s ++ "." ++ a) first)

def asName : Parser (Option String) := do
  if ← accept (.word .wAs) then some <$> name else pure none

def leadingDots : Nat → Parser Nat
  | 0 => pure 0
  | m + 1 => do
    if ← accept (.symbol .dot) then return (← leadingDots m) + 1
    if ← accept (.symbol .ellipsis) then return (← leadingDots m) + 3
    return 0

def fromAlias : Parser Alias := do
  let id ← name
  pure ⟨none, id, ← asName⟩

def fromTargets : Parser (List Alias) := do
  if ← accept (.symbol .star) then return [⟨none, "*", none⟩]
  if ← accept (.symbol .lparen) then
    let (as, _) ← commaList fromAlias n
    symbol .rparen
    return as
  strictCommaList fromAlias n

def importFrom : Parser Simple := do
  let level ← leadingDots n
  let module ← optionally (dottedName n)
  if level = 0 && module.isNone then failure
  word .wImport
  pure (.importFrom module (← fromTargets n) level)

def afterWord (w : Word) : Parser Simple := do
  match w with
  | .wPass => pure .pass
  | .wBreak => pure .breakLoop
  | .wContinue => pure .continueLoop
  | .wReturn => if ← statementEnd then pure (.ret none) else pure (.ret (some (← starExpressions n rules)))
  | .wRaise =>
    if ← statementEnd then return .raise none none
    let exc ← rules .expression
    if ← accept (.word .wFrom) then return .raise (some exc) (some (← rules .expression))
    return .raise (some exc) none
  | .wGlobal => pure (.global (← names n))
  | .wNonlocal => pure (.nonlocal (← names n))
  | .wDel =>
    let (targets, _) ← commaList (rules .primary) n
    if !(← statementEnd) then failure
    pure (.delete (← StateT.lift (Expr.toTargets? .del targets)))
  | .wAssert =>
    let test ← rules .expression
    if ← accept (.symbol .comma) then return .assert test (some (← rules .expression))
    return .assert test none
  | .wImport =>
    pure (.importNames (← strictCommaList (do
      let id ← dottedName n
      pure ⟨none, id, ← asName⟩) n))
  | .wFrom => importFrom n
  | _ => failure

def simpleStatement : Parser Simple := do
  match ← peek with
  | .word w =>
    if w ∈ [.wPass, .wBreak, .wContinue, .wReturn, .wRaise, .wGlobal, .wNonlocal, .wDel, .wAssert, .wImport,
        .wFrom] then
      word w
      afterWord n rules w
    else assignment n rules
  | _ => assignment n rules

def simpleStatements : Nat → Parser Block
  | 0 => failure
  | m + 1 => do
    let s ← simpleStatement n rules
    if ← accept (.symbol .semicolon) then
      if ← accept .newline then return [.simple none s]
      return .simple none s :: (← simpleStatements m)
    expect .newline
    return [.simple none s]

def body : Parser Block := do
  symbol .colon
  rules .block

def elseBody : Parser Block := do
  if ← accept (.word .wElse) then body rules else pure []

def functionTail (isAsync : Bool) (decorators : List Expr) : Parser Stmt := do
  let id ← name
  symbol .lparen
  let ps ← params n rules true
  symbol .rparen
  let returns ← (do
    if ← accept (.symbol .arrow) then some <$> rules .expression else pure none : Parser (Option Expr))
  pure (.func none ⟨isAsync, id, ps, decorators, returns⟩ (← body rules))

def classTail (decorators : List Expr) : Parser Stmt := do
  let id ← name
  let (bases, keywords) ← (do
    if ← accept (.symbol .lparen) then
      let args ← arguments n rules
      symbol .rparen
      pure args
    else pure ([], []) : Parser (List Expr × List Keyword))
  pure (.klass none ⟨id, bases, keywords, decorators⟩ (← body rules))

def forTail (isAsync : Bool) : Parser Stmt := do
  let target ← starTargets n rules
  word .wIn
  let iter ← starExpressions n rules
  let block ← body rules
  pure (.forLoop none isAsync target iter block (← elseBody rules))

def withItem : Parser WithItem := do
  let context ← rules .expression
  let vars ← optionally (do
    word .wAs
    let target ← starTarget rules n
    match ← peek with
    | .symbol .comma | .symbol .rparen | .symbol .colon => pure target
    | _ => failure)
  pure ⟨none, context, vars⟩

def withTail (isAsync : Bool) : Parser Stmt := do
  let grouped ← optionally (do
    symbol .lparen
    let (items, _) ← commaList (withItem n rules) n
    symbol .rparen
    if (← peek) = .symbol .colon then pure items else failure)
  let items ← (match grouped with
    | some items => pure items
    | none => strictCommaList (withItem n rules) n : Parser (List WithItem))
  pure (.withBlock none isAsync items (← body rules))

def handler (starred : Bool) : Parser Handler := do
  word .wExcept
  if starred then symbol .star
  if !starred && (← peek) = .symbol .colon then
    return .mk none none none (← body rules)
  let type ← rules .expression
  let id ← asName
  return .mk none (some type) id (← body rules)

def tryTail : Parser Stmt := do
  let block ← body rules
  let plain ← many (handler rules false) n
  let starred ← (if plain.isEmpty then many (handler rules true) n else pure [] : Parser (List Handler))
  let handlers := plain ++ starred
  let orelse ← (if handlers.isEmpty then pure [] else elseBody rules : Parser Block)
  let finalbody ← (do if ← accept (.word .wFinally) then body rules else pure [] : Parser Block)
  if handlers.isEmpty && finalbody.isEmpty then failure
  pure (.tryBlock none (!starred.isEmpty) block handlers orelse finalbody)

def subject : Parser Expr := do
  let (values, trailing) ← commaList (starNamedExpression rules) n
  match values, trailing with
  | [e], false => if e.isStarred then failure else pure e
  | es, _ => pure (.tuple none es .load)

def matchCase : Parser MatchCase := do
  expect (.name "case")
  let p ← patterns n rules
  let guard ← (do
    if ← accept (.word .wIf) then some <$> namedExpression rules else pure none : Parser (Option Expr))
  pure (.mk none p guard (← body rules))

def matchStatement : Parser Stmt := do
  expect (.name "match")
  let e ← subject n rules
  symbol .colon
  expect .newline
  expect .indent
  let first ← matchCase n rules
  let rest ← many (matchCase n rules) n
  expect .dedent
  pure (.matchOn none e (first :: rest))

def otherwise : Parser Block := do
  if ← accept (.word .wElif) then
    let test ← namedExpression rules
    let block ← body rules
    pure [.ifElse none test block (← rules .otherwise)]
  else elseBody rules

def decorators : Parser (List Expr) :=
  many (do
    symbol .at
    let e ← namedExpression rules
    expect .newline
    pure e) n

def definition (decorators : List Expr) : Parser Stmt := do
  if ← accept (.word .wDef) then functionTail n rules false decorators
  else if ← accept (.word .wClass) then classTail n rules decorators
  else
    word .wAsync
    word .wDef
    functionTail n rules true decorators

def compound (w : Word) : Parser Stmt := do
  match w with
  | .wDef => functionTail n rules false []
  | .wClass => classTail n rules []
  | .wIf =>
    let test ← namedExpression rules
    let block ← body rules
    pure (.ifElse none test block (← otherwise rules))
  | .wWhile =>
    let test ← namedExpression rules
    let block ← body rules
    pure (.whileLoop none test block (← elseBody rules))
  | .wFor => forTail n rules false
  | .wWith => withTail n rules false
  | .wTry => tryTail n rules
  | .wAsync =>
    if ← accept (.word .wDef) then functionTail n rules true []
    else if ← accept (.word .wFor) then forTail n rules true
    else
      word .wWith
      withTail n rules true
  | _ => failure

def statement : Parser Block := do
  match ← peek with
  | .word w =>
    if w ∈ [.wDef, .wClass, .wIf, .wWhile, .wFor, .wWith, .wTry, .wAsync] then
      word w
      return [← compound n rules w]
    simpleStatements n rules n
  | .symbol .at =>
    let ds ← decorators n rules
    return [← definition n rules ds]
  | .name "match" =>
    match ← optionally (matchStatement n rules) with
    | some s => return [s]
    | none => simpleStatements n rules n
  | _ => simpleStatements n rules n

def statements : Parser Block := do
  return (← many (statement n rules) n).flatten

def block : Parser Block := do
  if ← accept .newline then
    expect .indent
    let b ← statements n rules
    expect .dedent
    if b.isEmpty then failure else pure b
  else simpleStatements n rules n

def rule : (r : Rule) → Parser r.Result
  | .expression => expression n rules
  | .disjunction => disjunction n rules
  | .inversion => inversion n rules
  | .bitwiseOr => bitwiseOr n rules
  | .factor => factor n rules
  | .primary => primary n rules
  | .pattern => pattern n rules
  | .block => block n rules
  | .otherwise => otherwise rules

-- Ties the recursion between rules; a rule that runs out of fuel reads nothing.
def ruleWithin : Nat → Rules
  | 0, _ => fun _ => none
  | n + 1, r => rule n (ruleWithin n) r

-- Fuel that suffices for a text of so many characters: between two tokens few rules are entered, and the tokens of
-- embedded expressions stand in the text, too.
def fuelFor (length : Nat) : Nat := 8 * length + 64

def module? (n : Nat) (tokens : List Token) : Option Module :=
  match statements n (ruleWithin n) tokens with
  | some (body, [.done]) => some ⟨body⟩
  | _ => none

def singleExpression? (n : Nat) (tokens : List Token) : Option Expr :=
  match expressions n (ruleWithin n) tokens with
  | some (e, rest) => if rest.dropWhile (· = .newline) = [.done] then some e else none
  | none => none

end Whittle.Parser

namespace Whittle

inductive ParseError where
  | nul
  -- A surrogate stands alone, which no source can hold: its position and whether it has neighbours.
  | surrogate (first last : Nat) (point : Nat)
  | malformed
  deriving DecidableEq, Repr

def ParseError.message : ParseError → String
  | .nul => "source code string cannot contain null bytes"
  | .surrogate first last point =>
    let what :=
      if first == last then "character '" ++ String.ofList (Text.escapePoint point) ++ "' in position " ++ toString first
      else "characters in position " ++ toString first ++ "-" ++ toString last
    "'utf-8' codec can't encode " ++ what ++ ": surrogates not allowed"
  | .malformed => "invalid syntax"

def Module.parse (source : List Char) : Except ParseError Module :=
  if source.contains '\x00' then .error .nul
  else
    match (Lexer.tokens? (Lexer.terminated (Text.universalNewlines source))).bind
        (Parser.module? (Parser.fuelFor source.length)) with
    | some m => .ok m
    | none => .error .malformed

-- The characters are given as such: a text is decoded anew wherever they are asked for.
theorem Module.parse_of_tokens {source : List Char} {m : Module} (tokens : List Token)
    (plain : source.contains '\x00' = false)
    (scanned : Lexer.tokens? (Lexer.terminated (Text.universalNewlines source)) = some tokens)
    (read : Parser.module? (Parser.fuelFor source.length) tokens = some m) :
    Module.parse (String.ofList source).toList = .ok m := by
  rw [String.toList_ofList, parse, plain, if_neg Bool.false_ne_true, scanned, Option.bind_some, read]

def Expr.parse (source : List Char) : Except ParseError Expr :=
  if source.contains '\x00' then .error .nul
  else
    match (Lexer.tokens? (Text.universalNewlines source)).bind
        (Parser.singleExpression? (Parser.fuelFor source.length)) with
    | some e => .ok e
    | none => .error .malformed

end Whittle
