import Whittle.Syntax.Stmt
import Whittle.Text.Blank

namespace Whittle.Render

inductive Fault where
  | backslash
  | longInteger
  deriving DecidableEq, Repr

def Fault.message : Fault → String
  | .backslash => "Unable to avoid backslash in f-string expression part"
  | .longInteger =>
    "Exceeds the limit (4300 digits) for integer string conversion; use sys.set_int_max_str_digits() to increase the limit"

abbrev Strength := Nat

namespace Strength

def named : Strength := 0
def tuple : Strength := 1
def yield : Strength := 2
def test : Strength := 3
def or : Strength := 4
def and : Strength := 5
def not : Strength := 6
def compare : Strength := 7
def bitOr : Strength := 8
def bitXor : Strength := 9
def bitAnd : Strength := 10
def shift : Strength := 11
def arith : Strength := 12
def term : Strength := 13
def factor : Strength := 14
def power : Strength := 15
def await : Strength := 16
def atom : Strength := 17

def next (s : Strength) : Strength := if s < atom then s + 1 else s

end Strength

def wrap (own place : Strength) (s : String) : String := if own < place then "(" ++ s ++ ")" else s

def binarySign : BinaryOp → String
  | .add => "+" | .sub => "-" | .mult => "*" | .matMult => "@" | .div => "/" | .mod => "%" | .pow => "**"
  | .lShift => "<<" | .rShift => ">>" | .bitOr => "|" | .bitXor => "^" | .bitAnd => "&" | .floorDiv => "//"

def binaryStrength : BinaryOp → Strength
  | .add | .sub => .arith
  | .mult | .matMult | .div | .mod | .floorDiv => .term
  | .lShift | .rShift => .shift
  | .bitOr => .bitOr
  | .bitXor => .bitXor
  | .bitAnd => .bitAnd
  | .pow => .power

def compareSign : CompareOp → String
  | .eq => "==" | .notEq => "!=" | .lt => "<" | .ltE => "<=" | .gt => ">" | .gtE => ">=" | .is => "is"
  | .isNot => "is not" | .isIn => "in" | .notIn => "not in"

inductive Quote where
  | single | double | tripleDouble | tripleSingle
  deriving DecidableEq, Repr

def Quote.mark : Quote → List Char
  | .single => ['\'']
  | .double => ['"']
  | .tripleDouble => ['"', '"', '"']
  | .tripleSingle => ['\'', '\'', '\'']

def Quote.char : Quote → Char
  | .single | .tripleSingle => '\''
  | .double | .tripleDouble => '"'

def Quote.isTriple : Quote → Bool
  | .tripleDouble | .tripleSingle => true
  | _ => false

def allQuotes : List Quote := [.single, .double, .tripleDouble, .tripleSingle]

def docQuotes : List Quote := [.tripleDouble, .tripleSingle]

def holds (part : List Char) : List Char → Bool
  | [] => part.isEmpty
  | c :: rest => part.isPrefixOf (c :: rest) || holds part rest

-- One code point of a text that avoids escapes: tabs and line feeds are kept unless `escapeBlanks`.
def sparePoint (escapeBlanks : Bool) (c : Nat) : List Char :=
  if !escapeBlanks && (c == 9 || c == 10) then [Char.ofNat c]
  else if c == 92 then ['\\', '\\']
  else if Text.isPrintable c then [Char.ofNat c]
  else Text.escapePoint c

-- The body of a text that avoids escapes, and the quotes it may stand in, the best first. Without a fitting quote
-- the body is the quoted form with all its escapes.
def spareBody (quotes : List Quote) (escapeBlanks : Bool) (value : Text.Points) : List Char × List Quote :=
  let escaped := value.flatMap (sparePoint escapeBlanks)
  let possible := if escaped.contains '\n' then quotes.filter Quote.isTriple else quotes
  let possible := possible.filter fun q => !holds q.mark escaped
  match possible with
  | [] =>
    let quoted := (Text.quotePoints value).toList
    let outer := quoted.headD '\''
    let fallback : Quote := if outer == '"' then .double else .single
    ((quoted.drop 1).dropLast, [(quotes.find? fun q => q.char == outer).getD fallback])
  | first :: _ =>
    match escaped.getLast? with
    | none => ([], possible)
    | some final =>
      let sorted := possible.filter (fun q => q.char != final) ++ possible.filter fun q => q.char == final
      let best := sorted.headD first
      if best.char == final then (escaped.dropLast ++ ['\\', final], sorted) else (escaped, sorted)

def spareText (quotes : List Quote) (value : Text.Points) : String :=
  let (body, possible) := spareBody quotes false value
  let mark := (possible.headD .single).mark
  String.ofList (mark ++ body ++ mark)

-- A number with an infinite value is written as a numeral that overflows.
def floatText (x : Binary64) (keepFraction : Bool) : String :=
  match x with
  | .infinite _ => "1e309"
  | _ => x.text keepFraction

def literal (spare : Bool) : Literal → Except Fault String
  | .none => .ok "None"
  | .bool true => .ok "True"
  | .bool false => .ok "False"
  | .ellipsis => .ok "..."
  | .int value =>
    let digits := Nat.toDigits 10 value
    if 4300 < digits.length then .error .longInteger else .ok (String.ofList digits)
  | .float value => .ok (floatText value true)
  | .imaginary value => .ok (floatText value false ++ "j")
  | .text marked value =>
    .ok ((if marked then "u" else "") ++ (if spare then spareText allQuotes value else Text.quotePoints value))
  | .bytes value => .ok (Text.quoteBytes value)

def itemsView : List String → String
  | [s] => s ++ ","
  | ss => Text.join ", " ss

def doubleBraces (value : Text.Points) : Text.Points :=
  value.flatMap fun c => if c == 0x7b || c == 0x7d then [c, c] else [c]

-- Quotes the parts of a formatted text; each part narrows the choice of quotes. A part is literal or computed.
def quoteParts : List (Text.Points × Bool) → List Quote → List Char → String
  | [], quotes, body =>
    let mark := (quotes.headD .single).mark
    String.ofList ('f' :: mark ++ body ++ mark)
  | (value, isLiteral) :: rest, quotes, body =>
    let (piece, quotes) := spareBody quotes isLiteral value
    quoteParts rest quotes (body ++ piece)

def isIntegral : Expr → Bool
  | .constant _ (.int _) | .constant _ (.bool _) => true
  | _ => false

def indexPlace : Expr → Strength
  | .tuple .. => .tuple
  | _ => .test

def conversionMark : Option Conversion → String
  | none => ""
  | some .str => "!s"
  | some .repr => "!r"
  | some .ascii => "!a"

def embedded (inner : String) (conversion : Option Conversion) (format : Text.Points) : Except Fault Text.Points :=
  if inner.toList.contains '\\' then .error .backslash
  else
    let gap := if inner.toList.head? == some '\x7b' then " " else ""
    .ok (Text.points ("\x7b" ++ gap ++ inner ++ conversionMark conversion) ++ format ++ Text.points "\x7d")

def paramText (stars : String) (p : Param) (hint default : Option String) : String :=
  stars ++ p.name ++ (match hint with | some a => ": " ++ a | none => "") ++
    (match default with | some d => "=" ++ d | none => "")

def paramsText (posOnly args : List String) (vararg : Option String) (kwOnly : List String)
    (kwarg : Option String) : String :=
  let slash := if posOnly.isEmpty then [] else ["/"]
  let star := match vararg with
    | some v => [v]
    | none => if kwOnly.isEmpty then [] else ["*"]
  Text.join ", " (posOnly ++ slash ++ args ++ star ++ kwOnly ++ kwarg.toList)

def linked (first : String) (links : List (CompareOp × String)) : String :=
  links.foldl (fun s l => s ++ " " ++ compareSign l.1 ++ " " ++ l.2) first

mutual

def expr (spare : Bool) (place : Strength) : Expr → Except Fault String
  | .boolOp _ op values => do
    let own : Strength := match op with | .and => .and | .or => .or
    let operands ← rising spare (Strength.next own) values
    return wrap own place (Text.join (match op with | .and => " and " | .or => " or ") operands)
  | .namedExpr _ target value => do
    return wrap .named place ((← expr spare .atom target) ++ " := " ++ (← expr spare .atom value))
  | .binOp _ left op right => do
    let own := binaryStrength op
    let (l, r) := if op = .pow then (Strength.next own, own) else (own, Strength.next own)
    return wrap own place ((← expr spare l left) ++ " " ++ binarySign op ++ " " ++ (← expr spare r right))
  | .unaryOp _ op operand => do
    match op with
    | .not => return wrap .not place ("not " ++ (← expr spare .not operand))
    | .invert => return wrap .factor place ("~" ++ (← expr spare .factor operand))
    | .plus => return wrap .factor place ("+" ++ (← expr spare .factor operand))
    | .minus => return wrap .factor place ("-" ++ (← expr spare .factor operand))
  | .lambda _ ps body => do
    let head ← params spare ps
    let inner ← expr spare .test body
    return wrap .test place ("lambda" ++ (if head.isEmpty then "" else " " ++ head) ++ ": " ++ inner)
  | .ifExp _ test body orelse => do
    let b ← expr spare (Strength.next .test) body
    let t ← expr spare (Strength.next .test) test
    return wrap .test place (b ++ " if " ++ t ++ " else " ++ (← expr spare .test orelse))
  | .dict _ items => do
    return "\x7b" ++ Text.join ", " (← dictItems spare items) ++ "\x7d"
  | .set _ elts => do
    let es ← exprs spare .test elts
    return if es.isEmpty then "\x7b*()\x7d" else "\x7b" ++ Text.join ", " es ++ "\x7d"
  | .comp _ kind elt generators => do
    let inner := (← expr spare .test elt) ++ (← clauses spare generators)
    return match kind with
      | .list => "[" ++ inner ++ "]"
      | .set => "\x7b" ++ inner ++ "\x7d"
      | .generator => "(" ++ inner ++ ")"
  | .dictComp _ key value generators => do
    let k ← expr spare .test key
    let v ← expr spare .test value
    return "\x7b" ++ k ++ ": " ++ v ++ (← clauses spare generators) ++ "\x7d"
  | .await _ value => do
    return wrap .await place ("await " ++ (← expr spare .atom value))
  | .yield _ value => do
    match value with
    | none => return wrap .yield place "yield"
    | some v => return wrap .yield place ("yield " ++ (← expr spare .atom v))
  | .yieldFrom _ value => do
    return wrap .yield place ("yield from " ++ (← expr spare .atom value))
  | .compare _ left ops comparators => do
    let first ← expr spare (Strength.next .compare) left
    let rest ← exprs spare (Strength.next .compare) comparators
    return wrap .compare place (linked first (ops.zip rest))
  | .call _ func args kws => do
    let f ← expr spare .atom func
    let as ← exprs spare .test args
    return f ++ "(" ++ Text.join ", " (as ++ (← keywords spare kws)) ++ ")"
  | .formatted _ value conversion none => do
    return Text.ofPoints (← embedded (← expr true (Strength.next .test) value) conversion [])
  | .formatted _ value conversion (some spec) => do
    let inner ← expr true (Strength.next .test) value
    return Text.ofPoints (← embedded inner conversion (Text.points ":" ++ (← stretch spec)))
  | .joined _ values => do
    if spare then
      return "f" ++ spareText allQuotes (← stretches values).flatten
    else
      let parts ← stretches values
      let literals := values.map fun v => match v with
        | .constant .. => true
        | _ => false
      return quoteParts (parts.zip literals) allQuotes []
  | .constant _ value => literal spare value
  | .attribute _ value attr _ => do
    return (← expr spare .atom value) ++ (if isIntegral value then " ." else ".") ++ attr
  | .subscript _ value index _ => do
    let v ← expr spare .atom value
    return v ++ "[" ++ (← expr spare (indexPlace index) index) ++ "]"
  | .starred _ value _ => do
    return "*" ++ (← expr spare .bitOr value)
  | .name _ id _ => return id
  | .list _ elts _ => do
    return "[" ++ Text.join ", " (← exprs spare .test elts) ++ "]"
  | .tuple _ elts _ => do
    let inner := itemsView (← exprs spare .test elts)
    return if elts.isEmpty || .tuple < place then "(" ++ inner ++ ")" else inner
  | .slice _ lower upper step => do
    let l ← optional spare lower
    let u ← optional spare upper
    let s ← optional spare step
    return l.getD "" ++ ":" ++ u.getD "" ++ (match s with | some s => ":" ++ s | none => "")

def exprs (spare : Bool) (place : Strength) : List Expr → Except Fault (List String)
  | [] => return []
  | e :: rest => return (← expr spare place e) :: (← exprs spare place rest)

-- Operands of a logical operator; each place asks for one strength more than the one before.
def rising (spare : Bool) (place : Strength) : List Expr → Except Fault (List String)
  | [] => return []
  | e :: rest => return (← expr spare place e) :: (← rising spare (Strength.next place) rest)

def optional (spare : Bool) : Option Expr → Except Fault (Option String)
  | none => return none
  | some e => return some (← expr spare .test e)

def dictItems (spare : Bool) : List DictItem → Except Fault (List String)
  | [] => return []
  | .pair key value :: rest => do
    let k ← expr spare .test key
    return (k ++ ": " ++ (← expr spare .test value)) :: (← dictItems spare rest)
  | .spread value :: rest => return ("**" ++ (← expr spare .bitOr value)) :: (← dictItems spare rest)

def clauses (spare : Bool) : List Comprehension → Except Fault String
  | [] => return ""
  | .mk _ target iter ifs isAsync :: rest => do
    let t ← expr spare .tuple target
    let i ← expr spare (Strength.next .test) iter
    let cs ← exprs spare (Strength.next .test) ifs
    let one := (if isAsync then " async for " else " for ") ++ t ++ " in " ++ i ++ String.join (cs.map (" if " ++ ·))
    return one ++ (← clauses spare rest)

def keywords (spare : Bool) : List Keyword → Except Fault (List String)
  | [] => return []
  | .mk _ name value :: rest => do
    let front := match name with
      | some n => n ++ "="
      | none => "**"
    return (front ++ (← expr spare .test value)) :: (← keywords spare rest)

def param (spare : Bool) (stars : String) : Param → Except Fault String
  | .mk l name hint default => do
    let a ← optional spare hint
    return paramText stars (.mk l name none none) a (← optional spare default)

def paramList (spare : Bool) : List Param → Except Fault (List String)
  | [] => return []
  | p :: rest => return (← param spare "" p) :: (← paramList spare rest)

def optionalParam (spare : Bool) (stars : String) : Option Param → Except Fault (Option String)
  | none => return none
  | some p => return some (← param spare stars p)

def params (spare : Bool) : Params → Except Fault String
  | .mk _ posOnly args vararg kwOnly kwarg => do
    let p ← paramList spare posOnly
    let a ← paramList spare args
    let v ← optionalParam spare "*" vararg
    let k ← paramList spare kwOnly
    return paramsText p a v k (← optionalParam spare "**" kwarg)

def stretch : Expr → Except Fault Text.Points
  | .constant _ (.text _ value) => return doubleBraces value
  | .formatted _ value conversion none => do
    embedded (← expr true (Strength.next .test) value) conversion []
  | .formatted _ value conversion (some spec) => do
    let inner ← expr true (Strength.next .test) value
    embedded inner conversion (Text.points ":" ++ (← stretch spec))
  | .joined _ values => return (← stretches values).flatten
  | _ => return []

def stretches : List Expr → Except Fault (List Text.Points)
  | [] => return []
  | e :: rest => return (← stretch e) :: (← stretches rest)

end

end Whittle.Render
