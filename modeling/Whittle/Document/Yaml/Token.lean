import Whittle.Document.Yaml.Scalar
import Whittle.Document.Yaml.Stream

namespace Whittle.Yaml

inductive Token where
  | versionDirective (major : Nat)
  | tagDirective (handle stem : String)
  | otherDirective
  | documentStart
  | documentEnd
  | blockSequenceStart
  | blockMappingStart
  | blockEnd
  | flowSequenceStart
  | flowSequenceEnd
  | flowMappingStart
  | flowMappingEnd
  | blockEntry
  | flowEntry
  | key
  | value
  | alias (name : String)
  | anchor (name : String)
  | tag (handle : Option String) (suffix : String)
  | scalar (text : List Char) (isPlain : Bool)
  deriving DecidableEq, Repr

-- Whether a node is a key shows only at the colon after it, which must come on the same line and within 1024
-- characters.
structure Candidate where
  before : Nat
  -- A key must follow: the node starts where keys of the current mapping start.
  isRequired : Bool
  index : Nat
  line : Nat
  column : Nat

structure Scanner where
  cursor : Cursor
  tokens : Array Token := #[]
  indents : List Nat := []
  flowDepth : Nat := 0
  mayKey : Bool := true
  -- The candidates, each with the flow depth that it stands at.
  candidates : List (Nat × Candidate) := []

namespace Scanner

def indent (s : Scanner) : Int := (s.indents.head?.map Int.ofNat).getD (-1)

def inFlow (s : Scanner) : Bool := s.flowDepth != 0

def push (s : Scanner) (t : Token) : Scanner := { s with tokens := s.tokens.push t }

def moveTo (s : Scanner) (c : Cursor) : Scanner := { s with cursor := c }

def pushPast (s : Scanner) (t : Token) (n : Nat) : Scanner := (s.push t).moveTo (s.cursor.skip n)

def unwind (column : Int) : List Nat → Array Token → List Nat × Array Token
  | [], ts => ([], ts)
  | i :: rest, ts => if column < i then unwind column rest (ts.push .blockEnd) else (i :: rest, ts)

def unwindTo (s : Scanner) (column : Int) : Scanner :=
  if s.inFlow then s
  else
    let (indents, tokens) := unwind column s.indents s.tokens
    { s with indents := indents, tokens := tokens }

def indentTo (s : Scanner) (column : Nat) (t : Token) (before : Nat) : Scanner :=
  if s.indent < column then
    { s with indents := column :: s.indents, tokens := s.tokens.insertIdxIfInBounds before t }
  else s

def dropStale (s : Scanner) : Except Fault Scanner :=
  let isStale (k : Candidate) : Bool := k.line != s.cursor.line || 1024 < s.cursor.index - k.index
  if s.candidates.any fun (_, k) => isStale k && k.isRequired then .error .malformed
  else .ok { s with candidates := s.candidates.filter fun (_, k) => !isStale k }

def dropCandidate (s : Scanner) : Except Fault Scanner :=
  match s.candidates.lookup s.flowDepth with
  | none => .ok s
  | some k =>
    if k.isRequired then .error .malformed
    else .ok { s with candidates := s.candidates.filter fun (d, _) => d != s.flowDepth }

def saveCandidate (s : Scanner) : Except Fault Scanner := do
  if !s.mayKey then return s
  let c := s.cursor
  let k : Candidate := ⟨s.tokens.size, !s.inFlow && s.indent == c.column, c.index, c.line, c.column⟩
  let s ← s.dropCandidate
  return { s with candidates := (s.flowDepth, k) :: s.candidates }

def isAddressChar (c : Char) : Bool :=
  c.isAlphanum || "-;/?:@&=+$,_.!~*'()[]%".toList.contains c

def addressBytes : Nat → Cursor → Except Fault (Bytes × Cursor)
  | 0, c => .ok ([], c)
  | fuel + 1, c =>
    if c.peek == '%' then
      if isHexDigit (c.ahead 1) && isHexDigit (c.ahead 2) then do
        let b := UInt8.ofNat (Scalar.hexNumber [c.ahead 1, c.ahead 2])
        let (more, c) ← addressBytes fuel (c.skip 3)
        return (b :: more, c)
      else .error .malformed
    else .ok ([], c)

def addressTail : Nat → Cursor → Scalar.Read
  | 0, c => .ok ([], c)
  | fuel + 1, c =>
    if c.peek == '%' then do
      let (bytes, c) ← addressBytes (c.rest.length + 1) c
      match Utf8.decode bytes with
      | .error _ => throw .malformed
      | .ok text =>
        let (more, c) ← addressTail fuel c
        return (text.toList ++ more, c)
    else if isAddressChar c.peek then do
      let (more, next) ← addressTail fuel c.next
      return (c.peek :: more, next)
    else .ok ([], c)

def address (c : Cursor) : Except Fault (String × Cursor) :=
  if isAddressChar c.peek then do
    let (cs, c) ← addressTail (c.rest.length + 1) c
    return (String.ofList cs, c)
  else .error .malformed

def handle (c : Cursor) : Except Fault (String × Cursor) :=
  if c.peek != '!' then .error .malformed
  else if c.ahead 1 == ' ' then .ok ("!", c.next)
  else
    let (name, c) := c.next.span isNameChar
    if c.peek == '!' then .ok ("!" ++ String.ofList name ++ "!", c.next) else .error .malformed

def number (c : Cursor) : Except Fault (Nat × Cursor) :=
  match c.span Char.isDigit with
  | ([], _) => .error .malformed
  | (ds, c) => .ok (ds.foldl (fun n d => n * 10 + (d.toNat - 48)) 0, c)

def directive (c : Cursor) : Except Fault (Token × Cursor) := do
  let (name, c) ← c.next.name
  if !isGap c.peek then throw .malformed
  let (t, c) ← match name with
    | "YAML" => do
      let (major, c) ← number c.skipSpaces
      if c.peek != '.' then throw .malformed
      let (_, c) ← number c.next
      if !isGap c.peek then throw .malformed
      pure (Token.versionDirective major, c)
    | "TAG" => do
      let (h, c) ← handle c.skipSpaces
      if c.peek != ' ' then throw .malformed
      let (stem, c) ← address c.skipSpaces
      if !isGap c.peek then throw .malformed
      pure (Token.tagDirective h stem, c)
    | _ => pure (Token.otherDirective, c.skipWhile (!isBreak ·))
  return (t, ← c.finishLine)

def hasHandle (c : Cursor) : Bool := (c.rest.drop 1 |>.takeWhile (!isGap ·)).contains '!'

def tag (c : Cursor) : Except Fault (Token × Cursor) := do
  let (t, c) ←
    if c.ahead 1 == '<' then do
      let (suffix, c) ← address (c.skip 2)
      if c.peek != '>' then throw .malformed
      pure (Token.tag none suffix, c.next)
    else if isBlank (c.ahead 1) then pure (Token.tag none "!", c.next)
    else do
      let (h, c) ← if hasHandle c then handle c else pure ("!", c.next)
      let (suffix, c) ← address c
      pure (Token.tag (some h) suffix, c)
  if !isGap c.peek then throw .malformed
  return (t, c)

def label (c : Cursor) : Except Fault (String × Cursor) := do
  let (name, c) ← c.next.name
  if isBlank c.peek || ['?', ':', ',', ']', '\x7d', '%', '@', '\x60'].contains c.peek then return (name, c)
  else throw .malformed

def skipGaps (inFlow : Bool) : Nat → (mayKey : Bool) → Cursor → Bool × Cursor
  | 0, mayKey, c => (mayKey, c)
  | fuel + 1, mayKey, c =>
    let c := c.skipSpaces.skipComment
    if isBreak c.peek then skipGaps inFlow fuel (mayKey || !inFlow) c.lineBreak.2 else (mayKey, c)

def toNextToken (s : Scanner) : Scanner :=
  let c := if s.cursor.index == 0 && isByteOrderMark s.cursor.peek then s.cursor.next else s.cursor
  let (mayKey, c) := skipGaps s.inFlow (c.rest.length + 1) s.mayKey c
  { s with mayKey := mayKey, cursor := c }

def node (s : Scanner) (t : Token) (c : Cursor) : Except Fault Scanner := do
  let s ← s.saveCandidate
  return ({ s with mayKey := false }.push t).moveTo c

def openFlow (s : Scanner) (t : Token) : Except Fault Scanner := do
  let s ← s.saveCandidate
  return { s with flowDepth := s.flowDepth + 1, mayKey := true }.pushPast t 1

def closeFlow (s : Scanner) (t : Token) : Except Fault Scanner := do
  let s ← s.dropCandidate
  if !s.inFlow then throw .malformed
  return { s with flowDepth := s.flowDepth - 1, mayKey := false }.pushPast t 1

def indicator (s : Scanner) (t start : Token) (mayKey : Bool) : Except Fault Scanner := do
  if !s.inFlow && !s.mayKey then throw .malformed
  let s := if s.inFlow then s else s.indentTo s.cursor.column start s.tokens.size
  let s ← s.dropCandidate
  return { s with mayKey := mayKey }.pushPast t 1

-- The colon after a key: the token for the key goes in front of the candidate, if there is one.
def colon (s : Scanner) : Except Fault Scanner :=
  match s.candidates.lookup s.flowDepth with
  | some k =>
    let s := { s with
      candidates := s.candidates.filter fun (d, _) => d != s.flowDepth
      tokens := s.tokens.insertIdxIfInBounds k.before .key
      mayKey := false }
    let s := if s.inFlow then s else s.indentTo k.column .blockMappingStart k.before
    .ok (s.pushPast .value 1)
  | none => s.indicator .value .blockMappingStart (!s.inFlow)

def endBlocks (s : Scanner) : Except Fault Scanner := do
  let s ← (s.unwindTo (-1)).dropCandidate
  return { s with mayKey := false }

def startsPlain (s : Scanner) : Bool :=
  let ch := s.cursor.peek
  !(isBlank ch || "-?:,[]\x7b\x7d#&*!|>'\"%@\x60".toList.contains ch) ||
    (!isBlank (s.cursor.ahead 1) && (ch == '-' || (!s.inFlow && (ch == '?' || ch == ':'))))

def plain (s : Scanner) : Except Fault Scanner := do
  let s ← s.saveCandidate
  let (text, c, broke) := Scalar.plain s.inFlow (s.indent + 1) (s.cursor.rest.length + 1) [] false s.cursor
  return ({ s with mayKey := broke }.push (.scalar text true)).moveTo c

def block (s : Scanner) (fold : Bool) : Except Fault Scanner := do
  let s ← s.dropCandidate
  let (text, c) ← Scalar.block fold s.indent s.cursor
  return ({ s with mayKey := true }.push (.scalar text false)).moveTo c

def quoted (s : Scanner) (double : Bool) : Except Fault Scanner := do
  let (text, c) ← Scalar.quoted double s.cursor
  s.node (.scalar text false) c

def fetch (s : Scanner) : Except Fault Scanner := do
  let c := s.cursor
  let isLineStart := c.column == 0
  let isAlone := isBlank (c.ahead 1)
  match c.peek with
  | '%' =>
    if !isLineStart then throw .malformed
    let s ← s.endBlocks
    let (t, c) ← directive c
    return (s.push t).moveTo c
  | '[' => s.openFlow .flowSequenceStart
  | '\x7b' => s.openFlow .flowMappingStart
  | ']' => s.closeFlow .flowSequenceEnd
  | '\x7d' => s.closeFlow .flowMappingEnd
  | ',' =>
    let s ← s.dropCandidate
    return { s with mayKey := true }.pushPast .flowEntry 1
  | '*' =>
    let (name, c) ← label c
    s.node (.alias name) c
  | '&' =>
    let (name, c) ← label c
    s.node (.anchor name) c
  | '!' =>
    let (t, c) ← tag c
    s.node t c
  | '\'' => s.quoted false
  | '"' => s.quoted true
  | ch =>
    if isLineStart && c.isMarker '-' then return (← s.endBlocks).pushPast .documentStart 3
    else if isLineStart && c.isMarker '.' then return (← s.endBlocks).pushPast .documentEnd 3
    else if ch == '-' && isAlone then s.indicator .blockEntry .blockSequenceStart true
    else if ch == '?' && (s.inFlow || isAlone) then s.indicator .key .blockMappingStart (!s.inFlow)
    else if ch == ':' && (s.inFlow || isAlone) then s.colon
    else if (ch == '|' || ch == '>') && !s.inFlow then s.block (ch == '>')
    else if s.startsPlain then s.plain
    else throw .malformed

-- Adds the next token, or gives `none` when there is none left. A scanner looks one character ahead of where it stands,
-- so that `stop` is met there.
def step (stop : Option Fault) (s : Scanner) : Except Fault (Scanner × Bool) := do
  let s ← reached s.toNextToken
  let s ← s.dropStale
  let s := s.unwindTo s.cursor.column
  if isEnd s.cursor.peek then return (← s.endBlocks, false)
  let s ← match s.fetch with
    | .error .unclosed => throw (stop.getD .unclosed)
    | fetched => fetched
  return (← (← reached s).dropStale, true)
where
  reached (s : Scanner) : Except Fault Scanner :=
    match stop, s.cursor.rest with
    | some f, [] | some f, [_] => .error f
    | _, _ => .ok s

-- How many tokens are settled: the token of a key goes in front of no other candidate any more.
def settled (s : Scanner) : Nat := (s.candidates.map (·.2.before)).foldl min s.tokens.size

-- Adds tokens up to the end. Tokens are scanned only when they are asked for, so that a fault leaves those that were
-- settled before.
def run (stop : Option Fault) : Nat → Scanner → List Token × Option Fault
  | 0, s => (s.tokens.toList, none)
  | fuel + 1, s =>
    match s.step stop with
    | .error f => (s.tokens.toList.take s.settled, some f)
    | .ok (s, true) => run stop fuel s
    | .ok (s, false) => (s.tokens.toList, none)

end Scanner

def Token.scan (s : Stream) : List Token × Option Fault :=
  Scanner.run s.stop (s.chars.length + 2) { cursor := { rest := s.chars } }

end Whittle.Yaml
