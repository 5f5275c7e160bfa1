import Whittle.Text.Printable

namespace Whittle.Text

-- The code points of a text; surrogates may stand alone.
abbrev Points := List Nat

def points (s : String) : Points := s.toList.map Char.toNat

def isSurrogate (c : Nat) : Bool := 0xd800 ≤ c && c ≤ 0xdfff

def ofPoints (cs : Points) : String := String.ofList (cs.map Char.ofNat)

def hex (width n : Nat) : List Char :=
  let digits := Nat.toDigits 16 n
  List.replicate (width - digits.length) '0' ++ digits

def escapePoint (c : Nat) : List Char :=
  if c == 9 then ['\\', 't']
  else if c == 10 then ['\\', 'n']
  else if c == 13 then ['\\', 'r']
  else if c < 0x100 then '\\' :: 'x' :: hex 2 c
  else if c < 0x10000 then '\\' :: 'u' :: hex 4 c
  else '\\' :: 'U' :: hex 8 c

def chooseQuote (cs : List Nat) : Char :=
  if cs.contains 39 && !cs.contains 34 then '"' else '\''

def quotePoint (quote : Char) (c : Nat) : List Char :=
  if c == quote.toNat || c == 92 then ['\\', Char.ofNat c]
  else if isPrintable c then [Char.ofNat c]
  else escapePoint c

def quotePoints (cs : Points) : String :=
  let quote := chooseQuote cs
  String.ofList (quote :: cs.flatMap (quotePoint quote) ++ [quote])

def quote (s : String) : String := quotePoints (points s)

def quoteBytes (bytes : List Nat) : String :=
  let quote := chooseQuote bytes
  let one (b : Nat) : List Char := if b < 128 then quotePoint quote b else escapePoint b
  String.ofList ('b' :: quote :: bytes.flatMap one ++ [quote])

end Whittle.Text
