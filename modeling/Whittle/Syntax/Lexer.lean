import Whittle.Syntax.Numeral
import Whittle.Syntax.Token
import Whittle.Text.NormalForm

namespace Whittle.Lexer

def maxBrackets : Nat := 200

def maxIndents : Nat := 100

-- Measured with tab stops of eight columns and of one; both measures must agree on how lines nest.
structure Indentation where
  column : Nat
  altColumn : Nat
  -- The column at which the first continued line was broken, zero for none.
  brokenAt : Nat

-- Measures the blanks at the start of a line; `none` when a line is continued into the end of the source.
def measure (i : Indentation) : List Char → Option (Indentation × List Char)
  | ' ' :: rest => measure { i with column := i.column + 1, altColumn := i.altColumn + 1 } rest
  | '\t' :: rest => measure { i with column := (i.column / 8 + 1) * 8, altColumn := i.altColumn + 1 } rest
  | '\x0c' :: rest => measure { i with column := 0, altColumn := 0 } rest
  | '\\' :: '\n' :: rest =>
    if rest.isEmpty then none
    else measure { i with brokenAt := if i.brokenAt = 0 then i.column else i.brokenAt } rest
  | '\\' :: _ => none
  | rest => some (i, rest)

def closeLevels (column : Nat) : List (Nat × Nat) → Nat → List (Nat × Nat) × Nat
  | [], closed => ([], closed)
  | level :: outer, closed =>
    if column < level.1 then closeLevels column outer (closed + 1) else (level :: outer, closed)

def layout (levels : List (Nat × Nat)) (i : Indentation) : Option (List Token × List (Nat × Nat)) :=
  let column := if i.brokenAt = 0 then i.column else i.brokenAt
  let altColumn := if i.brokenAt = 0 then i.altColumn else i.brokenAt
  let current := levels.headD (0, 0)
  if column = current.1 then
    if altColumn = current.2 then some ([], levels) else none
  else if current.1 < column then
    if maxIndents ≤ levels.length + 1 || altColumn ≤ current.2 then none
    else some ([.indent], (column, altColumn) :: levels)
  else
    let (outer, closed) := closeLevels column levels 0
    let enclosing := outer.headD (0, 0)
    if column = enclosing.1 && altColumn = enclosing.2 then some (List.replicate closed .dedent, outer) else none

structure Marks where
  isBytes : Bool := false
  isText : Bool := false
  isRaw : Bool := false
  isFormat : Bool := false
  marked : Bool := false

def Marks.add? (m : Marks) (c : Char) : Option Marks :=
  if !(m.isBytes || m.isText || m.isFormat) && (c == 'b' || c == 'B') then some { m with isBytes := true }
  else if !(m.isBytes || m.isText || m.isRaw || m.isFormat) && (c == 'u' || c == 'U') then
    some { m with isText := true, marked := c == 'u' }
  else if !(m.isRaw || m.isText) && (c == 'r' || c == 'R') then some { m with isRaw := true }
  else if !(m.isFormat || m.isBytes || m.isText) && (c == 'f' || c == 'F') then some { m with isFormat := true }
  else none

def textStart (m : Marks) : List Char → Option (Marks × Char × List Char)
  | c :: rest =>
    if c == '\'' || c == '"' then some (m, c, rest)
    else (m.add? c).bind fun m' => textStart m' rest
  | [] => none

def shortBody (quote : Char) : List Char → Option (List Char × List Char)
  | [] => none
  | '\\' :: c :: rest => (shortBody quote rest).map fun (b, r) => ('\\' :: c :: b, r)
  | c :: rest =>
    if c == quote then some ([], rest)
    else if c == '\n' then none
    else (shortBody quote rest).map fun (b, r) => (c :: b, r)

def longBody (quote : Char) : List Char → Option (List Char × List Char)
  | [] => none
  | '\\' :: c :: rest => (longBody quote rest).map fun (b, r) => ('\\' :: c :: b, r)
  | c :: rest =>
    if c == quote && (match rest with | d :: e :: _ => d == quote && e == quote | _ => false) then
      some ([], rest.drop 2)
    else (longBody quote rest).map fun (b, r) => (c :: b, r)

def textBody (quote : Char) (cs : List Char) : Option (List Char × List Char) :=
  match cs with
  | c :: d :: rest =>
    if c == quote && d == quote then longBody quote rest
    else if c == quote then some ([], d :: rest)
    else shortBody quote cs
  | _ => shortBody quote cs

def symbol? (cs : List Char) : Option (Symbol × List Char) :=
  (Symbol.spellings.find? fun s => s.1.isPrefixOf cs).map fun s => (s.2, cs.drop s.1.length)

def closing? : Symbol → Option Symbol
  | .lparen => some .rparen
  | .lbracket => some .rbracket
  | .lbrace => some .rbrace
  | _ => none

def track (opened : List Symbol) (s : Symbol) : Option (List Symbol) :=
  match closing? s with
  | some close => if maxBrackets ≤ opened.length then none else some (close :: opened)
  | none =>
    if s = .rparen || s = .rbracket || s = .rbrace then
      match opened with
      | close :: rest => if close = s then some rest else none
      | [] => none
    else some opened

-- A name or reserved word. A word is reserved as it is spelled; a name is known by its normal form.
def nameToken (cs : List Char) : Option Token :=
  if Text.isName cs then
    some (match Word.ofName? (String.ofList cs) with
      | some w => .word w
      | none => .name (String.ofList (Text.normalForm cs)))
  else none

def token? (cs : List Char) : Option (Token × List Char) :=
  match cs with
  | [] => none
  | c :: rest =>
    match textStart {} cs with
    | some (m, quote, after) =>
      (textBody quote after).map fun (body, r) => (.text ⟨m.isBytes, m.isRaw, m.isFormat, m.marked, body⟩, r)
    | none =>
      if c.isDigit then (Numeral.read cs).map fun (n, r) => (.number n, r)
      else if Numeral.runsOn c then
        (nameToken (cs.takeWhile Numeral.runsOn)).map (·, cs.dropWhile Numeral.runsOn)
      else if c == '.' && (match rest with | d :: _ => d.isDigit | [] => false) then
        (Numeral.afterPoint [] rest).map fun (n, r) => (.number n, r)
      else (symbol? cs).map fun (s, r) => (.symbol s, r)

inductive Place where
  | lineStart
  | inLine (blank : Bool)

-- Scans the rest of a source; `fuel` bounds the number of steps, each of which reads a character or starts a line.
def scan : Nat → Place → List (Nat × Nat) → List Symbol → List Char → List Token → Option (List Token)
  | 0, _, _, _, _, _ => none
  | fuel + 1, .lineStart, levels, opened, cs, acc =>
    match measure ⟨0, 0, 0⟩ cs with
    | none => none
    | some (i, rest) =>
      let blank := match rest with
        | c :: _ => c == '#' || c == '\n'
        | [] => false
      if blank || !opened.isEmpty then scan fuel (.inLine blank) levels opened rest acc
      else match layout levels i with
        | none => none
        | some (tokens, levels) => scan fuel (.inLine false) levels opened rest (tokens.reverse ++ acc)
  | fuel + 1, .inLine blank, levels, opened, cs, acc =>
    match cs with
    | [] => if opened.isEmpty then some (.done :: acc) else none
    | ' ' :: rest | '\t' :: rest | '\x0c' :: rest => scan fuel (.inLine blank) levels opened rest acc
    | '#' :: rest => scan fuel (.inLine blank) levels opened (rest.dropWhile (· != '\n')) acc
    | '\n' :: rest =>
      if blank || !opened.isEmpty then scan fuel .lineStart levels opened rest acc
      else scan fuel .lineStart levels opened rest (.newline :: acc)
    | '\\' :: rest =>
      match rest with
      | '\n' :: c :: more => scan fuel (.inLine blank) levels opened (c :: more) acc
      | _ => none
    | _ =>
      match token? cs with
      | none => none
      | some (.symbol s, rest) =>
        match track opened s with
        | none => none
        | some opened => scan fuel (.inLine blank) levels opened rest (.symbol s :: acc)
      | some (t, rest) => scan fuel (.inLine blank) levels opened rest (t :: acc)

def tokens? (cs : List Char) : Option (List Token) :=
  (scan (2 * cs.length + 4) .lineStart [] [] cs []).map List.reverse

def terminated (cs : List Char) : List Char :=
  match cs.getLast? with
  | some '\n' => cs
  | _ => cs ++ ['\n']

end Whittle.Lexer
