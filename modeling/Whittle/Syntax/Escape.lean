import Whittle.Syntax.Numeral
import Whittle.Text.CharacterName
import Whittle.Text.Quoted

namespace Whittle.Escape

def letter? : Char → Option Nat
  | '\\' => some 92
  | '\'' => some 39
  | '"' => some 34
  | 'a' => some 7
  | 'b' => some 8
  | 'f' => some 12
  | 'n' => some 10
  | 'r' => some 13
  | 't' => some 9
  | 'v' => some 11
  | _ => none

def hex? (n : Nat) (cs : List Char) : Option (Nat × List Char) :=
  let digits := cs.take n
  if digits.length == n && digits.all Numeral.isHexDigit then some (Numeral.valueIn 16 digits, cs.drop n) else none

def octal (cs : List Char) : Nat × List Char :=
  let digits := (cs.take 3).takeWhile Numeral.isOctalDigit
  (Numeral.valueIn 8 digits, cs.drop digits.length)

def braced? : List Char → Option (Nat × List Char)
  | '\x7b' :: cs =>
    match cs.dropWhile (· != '\x7d') with
    | _ :: rest => (Text.named? (cs.takeWhile (· != '\x7d'))).map (·, rest)
    | [] => none
  | _ => none

def textEscape? (c : Char) (rest : List Char) : Option (Text.Points × List Char) :=
  match letter? c with
  | some p => some ([p], rest)
  | none =>
    if c == '\n' then some ([], rest)
    else if Numeral.isOctalDigit c then
      let (n, r) := octal (c :: rest)
      some ([n], r)
    else if c == 'x' then (hex? 2 rest).map fun (n, r) => ([n], r)
    else if c == 'u' then (hex? 4 rest).map fun (n, r) => ([n], r)
    else if c == 'U' then
      (hex? 8 rest).bind fun (n, r) => if n ≤ 0x10ffff then some ([n], r) else none
    else if c == 'N' then (braced? rest).map fun (n, r) => ([n], r)
    else some ([92, c.toNat], rest)

def byteEscape? (c : Char) (rest : List Char) : Option (List Nat × List Char) :=
  match letter? c with
  | some p => some ([p], rest)
  | none =>
    if c == '\n' then some ([], rest)
    else if Numeral.isOctalDigit c then
      let (n, r) := octal (c :: rest)
      some ([n % 256], r)
    else if c == 'x' then (hex? 2 rest).map fun (n, r) => ([n], r)
    else some ([92, c.toNat], rest)

-- Decodes with a given reading of escapes; every step reads a character, so the length is fuel enough.
def decodeWith (escape? : Char → List Char → Option (List Nat × List Char)) : Nat → List Char → Option (List Nat)
  | 0, cs => if cs.isEmpty then some [] else none
  | fuel + 1, cs =>
    match cs with
    | [] => some []
    | '\\' :: c :: rest =>
      (escape? c rest).bind fun (points, r) => (decodeWith escape? fuel r).map (points ++ ·)
    | c :: rest => (decodeWith escape? fuel rest).map (c.toNat :: ·)

def text? (isRaw : Bool) (body : List Char) : Option Text.Points :=
  if isRaw then some (body.map Char.toNat) else decodeWith textEscape? body.length body

def bytes? (isRaw : Bool) (body : List Char) : Option (List Nat) :=
  if body.any fun c => 128 ≤ c.toNat then none
  else if isRaw then some (body.map Char.toNat)
  else decodeWith byteEscape? body.length body

end Whittle.Escape
