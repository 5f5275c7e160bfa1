
namespace Whittle.Glob

inductive Piece where
  | star
  | any
  | one (c : Char)
  | oneOf (negated : Bool) (ranges : List (Char × Char))
  deriving Repr, DecidableEq

inductive Mark where
  | char (c : Char)
  | dash
  deriving Repr, DecidableEq

def Mark.toChar : Mark → Char
  | .char c => c
  | .dash => '-'

-- Cuts a bracket's content at the dashes that may make a range. A chunk starts with `held` characters that no dash
-- may follow directly; `acc` is the chunk so far, reversed.
def chunks : (held : Nat) → (acc : List Char) → List Char → List (List Char)
  | _, acc, [] => [acc.reverse]
  | held + 1, acc, c :: rest => chunks held (c :: acc) rest
  | 0, acc, c :: rest => if c == '-' then acc.reverse :: chunks 2 [] rest else chunks 0 (c :: acc) rest

def closeChunks : List (List Char) → List (List Char)
  | [] => []
  | [chunk, []] => [chunk ++ ['-']]
  | chunk :: rest => chunk :: closeChunks rest

-- Joins a chunk to those after it; the ends of a range that would run backwards vanish.
def joinChunk (chunk : List Char) : List (List Char) → List (List Char)
  | [] => [chunk]
  | next :: rest =>
    match chunk.getLast?, next with
    | some last, first :: more =>
      if first < last then (chunk.dropLast ++ more) :: rest else chunk :: next :: rest
    | _, _ => chunk :: next :: rest

def mendChunks : List (List Char) → List (List Char)
  | [] => []
  | chunk :: rest => joinChunk chunk (mendChunks rest)

def marks : List (List Char) → List Mark
  | [] => []
  | [chunk] => chunk.map .char
  | chunk :: rest => chunk.map .char ++ .dash :: marks rest

-- The ranges that marks spell; a dash without both neighbours is a plain character.
def ranges : List Mark → List (Char × Char)
  | [] => []
  | a :: .dash :: b :: rest => (a.toChar, b.toChar) :: ranges rest
  | a :: rest => (a.toChar, a.toChar) :: ranges rest

def contentMarks (content : List Char) : List Mark :=
  if content.contains '-' then
    marks (mendChunks (closeChunks (chunks (if content.head? == some '!' then 2 else 1) [] content)))
  else content.map .char

def bracket (content : List Char) : Piece :=
  match contentMarks content with
  | [.char '!'] => .any
  | .char '!' :: rest => .oneOf true (ranges rest)
  | ms => .oneOf false (ranges ms)

-- The length of a bracket's content, when it is closed. A closing bracket at the front is content.
def contentLength? (cs : List Char) : Option Nat :=
  let lead := match cs with
    | '!' :: ']' :: _ => 2
    | '!' :: _ => 1
    | ']' :: _ => 1
    | _ => 0
  let inner := (cs.drop lead).takeWhile (· != ']')
  if lead + inner.length < cs.length then some (lead + inner.length) else none

def pieces : (skip : Nat) → List Char → List Piece
  | _, [] => []
  | skip + 1, _ :: rest => pieces skip rest
  | 0, c :: rest =>
    if c == '*' then .star :: pieces 0 rest
    else if c == '?' then .any :: pieces 0 rest
    else if c == '[' then
      match contentLength? rest with
      | some n => bracket (rest.take n) :: pieces (n + 1) rest
      | none => .one '[' :: pieces 0 rest
    else .one c :: pieces 0 rest

def Piece.accepts : Piece → Char → Bool
  | .star, _ | .any, _ => true
  | .one c, d => c == d
  | .oneOf negated rs, d => (rs.any fun (lo, hi) => lo ≤ d && d ≤ hi) != negated

-- For each rest of the text, the longest first, whether it is empty.
def ends (text : List Char) : List Bool := text.map (fun _ => false) ++ [true]

def fromHereOn : List Bool → List Bool
  | [] => []
  | b :: rest =>
    match fromHereOn rest with
    | [] => [b]
    | later :: more => (b || later) :: later :: more

-- Whether a piece accepts the first character of a rest and the flag of the next rest holds.
def stepOver (p : Piece) : List Char → List Bool → List Bool
  | c :: text, _ :: next :: flags => (p.accepts c && next) :: stepOver p text (next :: flags)
  | _, _ => [false]

def matchFlags (text : List Char) : List Piece → List Bool
  | [] => ends text
  | .star :: ps => fromHereOn (matchFlags text ps)
  | p :: ps => stepOver p text (matchFlags text ps)

def isMatch (pattern text : String) : Bool :=
  (matchFlags text.toList (pieces 0 pattern.toList)).headD false

def isMatchAny (patterns : List String) (path : String) : Bool :=
  patterns.any fun p => isMatch p path || isMatch p ("./" ++ path)

end Whittle.Glob
