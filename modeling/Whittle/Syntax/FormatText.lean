import Whittle.Syntax.Escape
import Whittle.Syntax.Expr
import Whittle.Syntax.Lexer

namespace Whittle.FormatText

inductive Stop where
  | finished
  | doubled
  | brace
  deriving DecidableEq

-- What a brace means for the stretch before it; doubling counts at the outermost level only.
def atBrace (outermost : Bool) (brace : Char) (rest : List Char) : Option (List Char × Stop × List Char) :=
  if outermost then
    match rest with
    | c :: more =>
      if c == brace then some ([brace], .doubled, more)
      else if brace == '\x7d' then none
      else some ([], .brace, brace :: rest)
    | [] => if brace == '\x7d' then none else some ([], .brace, [brace])
  else some ([], .brace, brace :: rest)

def isBrace (c : Char) : Bool := c == '\x7b' || c == '\x7d'

def extend (front : List Char) (r : Option (List Char × Stop × List Char)) : Option (List Char × Stop × List Char) :=
  r.map fun (lit, stop, rest) => (front ++ lit, stop, rest)

-- The literal stretch at the front, where it ends, and what follows. The braces around the name of a character are
-- part of the stretch; `inName` when the front is between them.
def stretch (isRaw outermost inName : Bool) : List Char → Option (List Char × Stop × List Char)
  | [] => some ([], .finished, [])
  | '\\' :: 'N' :: '\x7b' :: rest =>
    if isRaw || inName then extend ['\\'] (stretch isRaw outermost inName ('N' :: '\x7b' :: rest))
    else extend ['\\', 'N', '\x7b'] (stretch isRaw outermost true rest)
  | '\\' :: c :: rest =>
    if isRaw || inName then extend ['\\'] (stretch isRaw outermost inName (c :: rest))
    else if isBrace c then extend ['\\'] (atBrace outermost c rest)
    else extend ['\\', c] (stretch isRaw outermost false rest)
  | c :: rest =>
    if inName then extend [c] (stretch isRaw outermost (c != '\x7d') rest)
    else if isBrace c then atBrace outermost c rest
    else extend [c] (stretch isRaw outermost false rest)

def closes (opened close : Char) : Bool :=
  (opened == '(' && close == ')') || (opened == '[' && close == ']') || (opened == '\x7b' && close == '\x7d')

-- The text of an embedded expression up to the character that ends it. `quoted` is the quote of the string the scan
-- is in, with whether it is tripled; `opened` holds the open brackets.
def embedded (quoted : Option (Char × Bool)) (opened : List Char) : List Char → Option (List Char × List Char)
  | [] => none
  | '\\' :: _ => none
  | c :: d :: e :: rest =>
    match quoted with
    | some (q, true) =>
      if c == q && d == q && e == q then (embedded none opened rest).map fun (t, r) => (c :: d :: e :: t, r)
      else (embedded quoted opened (d :: e :: rest)).map fun (t, r) => (c :: t, r)
    | some (q, false) =>
      if c == q then (embedded none opened (d :: e :: rest)).map fun (t, r) => (c :: t, r)
      else (embedded quoted opened (d :: e :: rest)).map fun (t, r) => (c :: t, r)
    | none =>
      if c == '\'' || c == '"' then
        if d == c && e == c then
          (embedded (some (c, true)) opened rest).map fun (t, r) => (c :: d :: e :: t, r)
        else (embedded (some (c, false)) opened (d :: e :: rest)).map fun (t, r) => (c :: t, r)
      else if c == '[' || c == '\x7b' || c == '(' then
        if Lexer.maxBrackets ≤ opened.length then none
        else (embedded none (c :: opened) (d :: e :: rest)).map fun (t, r) => (c :: t, r)
      else if c == '#' then none
      else if opened.isEmpty &&
          (c == '!' || c == ':' || c == '\x7d' || c == '=' || c == '<' || c == '>') then
        if d == '=' && (c == '!' || c == '=' || c == '<' || c == '>') then
          (embedded none opened (e :: rest)).map fun (t, r) => (c :: d :: t, r)
        else if c == '<' || c == '>' then
          (embedded none opened (d :: e :: rest)).map fun (t, r) => (c :: t, r)
        else some ([], c :: d :: e :: rest)
      else if c == ']' || c == '\x7d' || c == ')' then
        match opened with
        | o :: outer =>
          if closes o c then (embedded none outer (d :: e :: rest)).map fun (t, r) => (c :: t, r) else none
        | [] => none
      else (embedded none opened (d :: e :: rest)).map fun (t, r) => (c :: t, r)
  | c :: rest =>
    -- fewer than three characters are left: no tripled quote can start or end here
    match quoted with
    | some (q, tripled) =>
      (embedded (if c == q && !tripled then none else quoted) opened rest).map fun (t, r) => (c :: t, r)
    | none =>
      if c == '\'' || c == '"' then (embedded (some (c, false)) opened rest).map fun (t, r) => (c :: t, r)
      else if c == '[' || c == '\x7b' || c == '(' then
        if Lexer.maxBrackets ≤ opened.length then none
        else (embedded none (c :: opened) rest).map fun (t, r) => (c :: t, r)
      else if c == '#' then none
      else if opened.isEmpty && (c == '!' || c == ':' || c == '\x7d' || c == '=') then some ([], c :: rest)
      else if c == ']' || c == '\x7d' || c == ')' then
        match opened with
        | o :: outer => if closes o c then (embedded none outer rest).map fun (t, r) => (c :: t, r) else none
        | [] => none
      else (embedded none opened rest).map fun (t, r) => (c :: t, r)

def isVoid (cs : List Char) : Bool := cs.all fun c => c == ' ' || c == '\t' || c == '\n' || c == '\x0c'

-- The values of a formatted text read so far, last first, and the literal stretch that follows them.
structure Pieces where
  values : List Expr
  literal : Text.Points

def Pieces.flush (p : Pieces) (marked : Bool) : List Expr :=
  if p.literal.isEmpty then p.values else .constant none (.text marked p.literal) :: p.values

def Pieces.append (p : Pieces) (points : Text.Points) : Pieces := { p with literal := p.literal ++ points }

def Pieces.push (p : Pieces) (marked : Bool) (e : Expr) : Pieces := ⟨e :: p.flush marked, []⟩

def conversion? : List Char → Option (Option Conversion × List Char)
  | '!' :: 's' :: rest => some (some .str, rest)
  | '!' :: 'r' :: rest => some (some .repr, rest)
  | '!' :: 'a' :: rest => some (some .ascii, rest)
  | '!' :: _ => none
  | cs => some (none, cs)

def isPlainBlank (c : Char) : Bool := c == ' ' || (9 ≤ c.toNat && c.toNat ≤ 13)

-- Reads a formatted text from a level on; `depth` levels of expressions may still be opened and `fuel` bounds the
-- number of pieces. Gives the pieces and what is left: nothing outermost, else a closing brace.
def parse (expr? : List Char → Option Expr) (isRaw marked : Bool) :
    (depth : Nat) → (outermost : Bool) → (fuel : Nat) → Pieces → List Char → Option (Pieces × List Char)
  | _, _, 0, _, _ => none
  | depth, outermost, fuel + 1, pieces, cs => do
    let (lit, stop, rest) ← stretch isRaw outermost false cs
    let points ← Escape.text? isRaw lit
    let pieces := pieces.append points
    match stop with
    | .doubled => parse expr? isRaw marked depth outermost fuel pieces rest
    | .finished => if outermost then some (pieces, []) else none
    | .brace =>
      match depth, rest with
      | _, '\x7d' :: _ => if outermost then none else some (pieces, rest)
      | depth + 1, _ :: body => do
        let (source, rest) ← embedded none [] body
        if isVoid source then failure
        let value ← expr? source
        let (shown, rest) : List Char × List Char :=
          match rest with
          | '=' :: more => (source ++ '=' :: more.takeWhile isPlainBlank, more.dropWhile isPlainBlank)
          | _ => ([], rest)
        let (conversion, rest) ← conversion? rest
        let (spec, rest) ← (match rest with
          | ':' :: more => do
            let (inner, after) ← parse expr? isRaw marked depth false fuel ⟨[], []⟩ more
            some (some (Expr.joined none (inner.flush marked).reverse), after)
          | _ => some (none, rest) : Option (Option Expr × List Char))
        match rest with
        | '\x7d' :: rest =>
          let conversion := if !shown.isEmpty && spec.isNone && conversion.isNone then some .repr else conversion
          let pieces := pieces.append (shown.map Char.toNat)
          parse expr? isRaw marked (depth + 1) outermost fuel
            (pieces.push marked (.formatted none value conversion spec)) rest
        | _ => none
      | _, _ => none

def read (expr? : List Char → Option Expr) (raw : RawText) (marked : Bool) (pieces : Pieces) : Option Pieces :=
  (parse expr? raw.isRaw marked 2 true (2 * raw.body.length + 2) pieces raw.body).map (·.1)

-- Joins neighbouring texts. All are byte strings or none is; one formatted text makes the whole formatted.
def join (expr? : List Char → Option Expr) (texts : List RawText) : Option Expr :=
  match texts with
  | [] => none
  | first :: _ =>
    if texts.all (·.isBytes) then
      (texts.mapM fun t => Escape.bytes? t.isRaw t.body).map fun parts => .constant none (.bytes parts.flatten)
    else if texts.any (·.isBytes) then none
    else
      let step (pieces : Pieces) (t : RawText) : Option Pieces :=
        if t.isFormat then read expr? t first.marked pieces
        else (Escape.text? t.isRaw t.body).map pieces.append
      (texts.foldlM step ⟨[], []⟩).map fun pieces =>
        if texts.any (·.isFormat) then .joined none (pieces.flush first.marked).reverse
        else .constant none (.text first.marked pieces.literal)

end Whittle.FormatText
