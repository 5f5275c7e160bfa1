import Whittle.Document.Moment
import Whittle.Text.Utf8

namespace Whittle.Yaml

inductive Fault where
  | malformed
  -- a text in quotes goes on to the end
  | unclosed
  | undecodable (e : Utf8.Fault)
  -- An escape names half of a surrogate pair: no character, but a text may hold it. What is read from such a text is
  -- left open.
  | surrogate
  -- An escape names a code point that there is not; `huge` when it does not even fit in 31 bits.
  | codePoint (huge : Bool)
  | noBoolean (word : String)
  | emptyNumber
  | noInteger (base : Nat) (text : String)
  | longInteger (digits : Nat)
  | noFloat (text : String)
  -- a weight in a number to base sixty is more than a double can be
  | hugeWeight
  | noMoment
  | moment (e : MomentError)
  deriving DecidableEq, Repr

-- Texts hold printable characters only, so that the character NUL can stand for the end.
structure Cursor where
  rest : List Char
  index : Nat := 0
  line : Nat := 0
  column : Nat := 0

def byteOrderMark : Char := Char.ofNat 0xfeff

def isByteOrderMark (c : Char) : Bool := c == byteOrderMark

def isSeparator (c : Char) : Bool := c.toNat == 0x2028 || c.toNat == 0x2029

def isBreak (c : Char) : Bool := c == '\r' || c == '\n' || c.toNat == 0x85 || isSeparator c

def isEnd (c : Char) : Bool := c.toNat == 0

def isBreakOrEnd (c : Char) : Bool := isBreak c || isEnd c

def isGap (c : Char) : Bool := c == ' ' || isBreakOrEnd c

def isBlank (c : Char) : Bool := c == '\t' || isGap c

def isSpaceOrTab (c : Char) : Bool := c == ' ' || c == '\t'

def isNameChar (c : Char) : Bool := c.isAlphanum || c == '-' || c == '_'

def isHexDigit (c : Char) : Bool := c.isDigit || ('a' ≤ c && c ≤ 'f') || ('A' ≤ c && c ≤ 'F')

def isPrintable (c : Char) : Bool :=
  let n := c.toNat
  n == 9 || n == 10 || n == 13 || (0x20 ≤ n && n ≤ 0x7e) || n == 0x85 || (0xa0 ≤ n && n ≤ 0xd7ff) ||
    (0xe000 ≤ n && n ≤ 0xfffd) || 0x10000 ≤ n

namespace Cursor

def ahead (c : Cursor) (n : Nat) : Char := c.rest.getD n (Char.ofNat 0)

def peek (c : Cursor) : Char := c.ahead 0

def next (c : Cursor) : Cursor :=
  match c.rest with
  | [] => c
  | ch :: rest =>
    if isBreak ch && !(ch == '\r' && rest.head? == some '\n') then ⟨rest, c.index + 1, c.line + 1, 0⟩
    else ⟨rest, c.index + 1, c.line, if isByteOrderMark ch then c.column else c.column + 1⟩

def skip (c : Cursor) : Nat → Cursor
  | 0 => c
  | n + 1 => c.next.skip n

def span (p : Char → Bool) (c : Cursor) : List Char × Cursor :=
  let taken := c.rest.takeWhile p
  (taken, c.skip taken.length)

def skipWhile (p : Char → Bool) (c : Cursor) : Cursor := (c.span p).2

def skipSpaces (c : Cursor) : Cursor := c.skipWhile (· == ' ')

def skipComment (c : Cursor) : Cursor := if c.peek == '#' then c.skipWhile (!isBreak ·) else c

-- Moves past a line break and gives its text: a separator stays, every other break is a line feed.
def lineBreak (c : Cursor) : List Char × Cursor :=
  if isSeparator c.peek then ([c.peek], c.next)
  else if isBreak c.peek then (['\n'], if c.peek == '\r' && c.ahead 1 == '\n' then c.skip 2 else c.next)
  else ([], c)

def finishLine (c : Cursor) : Except Fault Cursor :=
  let c := c.skipSpaces.skipComment
  if isBreakOrEnd c.peek then .ok c.lineBreak.2 else .error .malformed

def isMarker (mark : Char) (c : Cursor) : Bool :=
  [mark, mark, mark].isPrefixOf c.rest && isBlank (c.ahead 3)

def isDocumentMarker (c : Cursor) : Bool := c.isMarker '-' || c.isMarker '.'

def name (c : Cursor) : Except Fault (String × Cursor) :=
  match c.span isNameChar with
  | ([], _) => .error .malformed
  | (cs, c) => .ok (String.ofList cs, c)

end Cursor

end Whittle.Yaml
