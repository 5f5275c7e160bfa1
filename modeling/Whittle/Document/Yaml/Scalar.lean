import Whittle.Document.Yaml.Cursor

namespace Whittle.Yaml.Scalar

abbrev Read := Except Fault (List Char × Cursor)

-- A line break inside a text is a space unless blank lines follow, which then stand for themselves.
def folded (lineBreak breaks : List Char) : List Char :=
  (if lineBreak != ['\n'] then lineBreak else if breaks.isEmpty then [' '] else []) ++ breaks

def endsPlain (inFlow : Bool) (ch after : Char) : Bool :=
  isBlank ch ||
    (ch == ':' && (isBlank after || (inFlow && [',', '[', ']', '\x7b', '\x7d'].contains after))) ||
    (inFlow && [',', '?', '[', ']', '\x7b', '\x7d'].contains ch)

def plainLength (inFlow : Bool) : List Char → Nat
  | [] => 0
  | ch :: rest => if endsPlain inFlow ch (rest.headD (Char.ofNat 0)) then 0 else plainLength inFlow rest + 1

-- Blank lines and the indentation after them; nothing if a document starts or ends there.
def plainBreaks : Nat → Cursor → List Char × Cursor × Bool
  | 0, c => ([], c, true)
  | fuel + 1, c =>
    if c.peek == ' ' then plainBreaks fuel c.next
    else if isBreak c.peek then
      let (b, c) := c.lineBreak
      if c.isDocumentMarker then ([], c, false)
      else
        let (more, c, go) := plainBreaks fuel c
        (b ++ more, c, go)
    else ([], c, true)

def plainSpaces (c : Cursor) : List Char × Cursor × Bool :=
  let (spaces, c) := c.span (· == ' ')
  if isBreak c.peek then
    let (b, c) := c.lineBreak
    if c.isDocumentMarker then ([], c, true)
    else
      let (more, c, go) := plainBreaks (c.rest.length + 1) c
      (if go then folded b more else [], c, true)
  else (spaces, c, false)

-- A plain text whose further lines are indented at least by `indent`. Gives also whether a line ended in it or
-- after it.
def plain (inFlow : Bool) (indent : Int) : Nat → (spaces : List Char) → (broke : Bool) → Cursor →
    List Char × Cursor × Bool
  | 0, _, broke, c => ([], c, broke)
  | fuel + 1, spaces, broke, c =>
    let n := if c.peek == '#' then 0 else plainLength inFlow c.rest
    if n == 0 then ([], c, broke)
    else
      let run := spaces ++ c.rest.take n
      let (spaces, c, broke) := plainSpaces (c.skip n)
      if spaces.isEmpty || c.peek == '#' || (!inFlow && (c.column : Int) < indent) then (run, c, broke)
      else
        let (more, c, broke) := plain inFlow indent fuel spaces broke c
        (run ++ more, c, broke)

def escape? (c : Char) : Option Char :=
  [('0', 0), ('a', 7), ('b', 8), ('t', 9), ('\t', 9), ('n', 10), ('v', 11), ('f', 12), ('r', 13), ('e', 27), (' ', 32),
    ('"', 34), ('\\', 92), ('/', 47), ('N', 0x85), ('_', 0xa0), ('L', 0x2028), ('P', 0x2029)].lookup c
    |>.map Char.ofNat

def escapeWidth? (c : Char) : Option Nat := [('x', 2), ('u', 4), ('U', 8)].lookup c

def hexValue (c : Char) : Nat :=
  if c.isDigit then c.toNat - 48 else if 97 ≤ c.toNat then c.toNat - 87 else c.toNat - 55

def hexNumber (cs : List Char) : Nat := cs.foldl (fun n c => n * 16 + hexValue c) 0

def hexChar (width : Nat) (c : Cursor) : Read :=
  let digits := c.rest.take width
  if digits.length == width && digits.all isHexDigit then
    let n := hexNumber digits
    if 0x7fffffff < n then .error (.codePoint true)
    else if 0x10ffff < n then .error (.codePoint false)
    else if 0xd800 ≤ n && n ≤ 0xdfff then .error .surrogate
    else .ok ([Char.ofNat n], c.skip width)
  else .error .malformed

def quotedBreaks : Nat → Cursor → Read
  | 0, c => .ok ([], c)
  | fuel + 1, c =>
    if c.isDocumentMarker then .error .malformed
    else
      let c := c.skipWhile isSpaceOrTab
      if isBreak c.peek then do
        let (b, c) := c.lineBreak
        let (more, c) ← quotedBreaks fuel c
        return (b ++ more, c)
      else .ok ([], c)

def quotedSpaces (c : Cursor) : Read :=
  let (spaces, c) := c.span isSpaceOrTab
  if isEnd c.peek then .error .unclosed
  else if isBreak c.peek then do
    let (b, c) := c.lineBreak
    let (more, c) ← quotedBreaks (c.rest.length + 1) c
    return (folded b more, c)
  else .ok (spaces, c)

def escaped (c : Cursor) : Read :=
  match escape? c.peek, escapeWidth? c.peek with
  | some ch, _ => .ok ([ch], c.next)
  | none, some width => hexChar width c.next
  | none, none =>
    if isBreak c.peek then quotedBreaks (c.rest.length + 1) c.lineBreak.2 else .error .malformed

def quotedTail (double : Bool) : Nat → Cursor → Read
  | 0, _ => .error .unclosed
  | fuel + 1, c => do
    let quote := if double then '"' else '\''
    let (piece, c) ←
      if isBlank c.peek then quotedSpaces c
      else if c.peek == quote then
        if !double && c.ahead 1 == quote then pure ([quote], c.skip 2) else return ([], c.next)
      else if double && c.peek == '\\' then escaped c.next
      else pure ([c.peek], c.next)
    let (more, c) ← quotedTail double fuel c
    return (piece ++ more, c)

def quoted (double : Bool) (c : Cursor) : Read := quotedTail double (c.rest.length + 1) c.next

inductive Chomp where
  | clip | strip | keep
  deriving DecidableEq, Repr

def chomp? (c : Char) : Option Chomp :=
  if c == '+' then some .keep else if c == '-' then some .strip else none

def blockMarks (c : Cursor) : Except Fault (Chomp × Option Nat × Cursor) := do
  let width (c : Cursor) : Option Nat := if c.peek.isDigit then some (c.peek.toNat - 48) else none
  let (chomp, given, c) := match chomp? c.peek with
    | some ch =>
      match width c.next with
      | some n => (ch, some n, c.skip 2)
      | none => (ch, none, c.next)
    | none =>
      match width c with
      | some n =>
        match chomp? c.next.peek with
        | some ch => (ch, some n, c.skip 2)
        | none => (.clip, some n, c.next)
      | none => (.clip, none, c)
  if given == some 0 || !isGap c.peek then throw .malformed
  return (chomp, given, c)

def blockIndentation : Nat → (widest : Nat) → Cursor → List Char × Nat × Cursor
  | 0, widest, c => ([], widest, c)
  | fuel + 1, widest, c =>
    if c.peek == ' ' then
      let c := c.next
      blockIndentation fuel (max widest c.column) c
    else if isBreak c.peek then
      let (b, c) := c.lineBreak
      let (more, widest, c) := blockIndentation fuel widest c
      (b ++ more, widest, c)
    else ([], widest, c)

def toColumn (column : Nat) (c : Cursor) : Cursor :=
  c.skip (min (column - c.column) (c.rest.takeWhile (· == ' ')).length)

def blockBreaks (column : Nat) : Nat → Cursor → List Char × Cursor
  | 0, c => ([], c)
  | fuel + 1, c =>
    let c := toColumn column c
    if isBreak c.peek then
      let (b, c) := c.lineBreak
      let (more, c) := blockBreaks column fuel c
      (b ++ more, c)
    else ([], c)

-- The lines of a block from a line on, `breaks` being the blank lines before it.
def blockLines (fold : Bool) (chomp : Chomp) (column : Nat) : Nat → (lineBreak breaks : List Char) → Cursor →
    List Char × Cursor
  | 0, _, _, c => ([], c)
  | fuel + 1, lineBreak, breaks, c =>
    if c.column == column && !isEnd c.peek then
      let flush := !isSpaceOrTab c.peek
      let (line, c) := c.span (!isBreak ·)
      let (lineBreak, c) := c.lineBreak
      let (later, c) := blockBreaks column (c.rest.length + 1) c
      let joint :=
        if c.column == column && !isEnd c.peek then
          if fold && lineBreak == ['\n'] && flush && !isSpaceOrTab c.peek then
            if later.isEmpty then [' '] else []
          else lineBreak
        else []
      let (more, c) := blockLines fold chomp column fuel lineBreak later c
      (breaks ++ line ++ joint ++ more, c)
    else
      ((if chomp == .strip then [] else lineBreak) ++ (if chomp == .keep then breaks else []), c)

def block (fold : Bool) (indent : Int) (c : Cursor) : Read := do
  let (chomp, given, c) ← blockMarks c.next
  let c ← c.finishLine
  let least := (max (indent + 1) 1).toNat
  let (breaks, column, c) := match given with
    | some n =>
      let column := least + n - 1
      let (breaks, c) := blockBreaks column (c.rest.length + 1) c
      (breaks, column, c)
    | none =>
      let (breaks, widest, c) := blockIndentation (c.rest.length + 1) 0 c
      (breaks, max least widest, c)
  return blockLines fold chomp column (c.rest.length + 2) [] breaks c

end Whittle.Yaml.Scalar
