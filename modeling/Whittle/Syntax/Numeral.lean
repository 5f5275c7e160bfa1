import Whittle.Syntax.Literal
import Whittle.Text.Identifier

namespace Whittle.Numeral

def digitRun (isDigit : Char → Bool) : List Char → Option (List Char × List Char)
  | [] => some ([], [])
  | '_' :: d :: rest =>
    if isDigit d then (digitRun isDigit rest).map fun (ds, r) => (d :: ds, r) else none
  | c :: rest =>
    if isDigit c then (digitRun isDigit rest).map fun (ds, r) => (c :: ds, r)
    else if c == '_' then none
    else some ([], c :: rest)

def digit (c : Char) : Nat :=
  if c.isDigit then c.toNat - 48 else if 97 ≤ c.toNat then c.toNat - 87 else c.toNat - 55

def valueIn (base : Nat) (ds : List Char) : Nat := ds.foldl (fun n c => n * base + digit c) 0

def isHexDigit (c : Char) : Bool :=
  c.isDigit || ('a' ≤ c && c ≤ 'f') || ('A' ≤ c && c ≤ 'F')

def isOctalDigit (c : Char) : Bool := '0' ≤ c && c ≤ '7'

def isBinaryDigit (c : Char) : Bool := c == '0' || c == '1'

def runsOn (c : Char) : Bool := c.isAlphanum || c == '_' || 128 ≤ c.toNat

def wordAhead (word cs : List Char) : Bool :=
  word.isPrefixOf cs && (match cs.drop word.length with | [] => true | c :: _ => !runsOn c)

-- A numeral must not run into a name, except that the words that can follow a value may follow it at once.
def mayEnd (cs : List Char) : Bool :=
  match cs with
  | [] => true
  | c :: rest =>
    if wordAhead ['a', 'n', 'd'] cs || wordAhead ['e', 'l', 's', 'e'] cs || wordAhead ['f', 'o', 'r'] cs ||
        wordAhead ['o', 'r'] cs then true
    else if c == 'i' then
      match rest with
      | d :: _ => d == 'f' || d == 'n' || d == 's'
      | [] => false
    else !runsOn c

def based (base : Nat) (isDigit : Char → Bool) (cs : List Char) : Option (Literal × List Char) :=
  let cs := match cs with
    | '_' :: rest => rest
    | _ => cs
  match cs with
  | [] => none
  | c :: _ =>
    if isDigit c then
      (digitRun isDigit cs).bind fun (ds, rest) =>
        let clash := match rest with
          | d :: _ => d.isDigit
          | [] => false
        if clash || !mayEnd rest then none else some (.int (valueIn base ds), rest)
    else none

def maxDigits : Nat := 4300

def finish (whole fraction : List Char) (exponent : Option Int) (isWhole : Bool) (rest : List Char) :
    Option (Literal × List Char) :=
  let value := Binary64.ofDecimal false (valueIn 10 (whole ++ fraction))
    (exponent.getD 0 - (fraction.length : Int))
  match rest with
  | c :: after =>
    if c == 'j' || c == 'J' then
      if mayEnd after then some (.imaginary value, after) else none
    else if !mayEnd rest then none
    else if isWhole then some (.int (valueIn 10 whole), rest)
    else some (.float value, rest)
  | [] => if isWhole then some (.int (valueIn 10 whole), []) else some (.float value, [])

def afterFraction (whole fraction : List Char) (isWhole : Bool) (cs : List Char) :
    Option (Literal × List Char) :=
  match cs with
  | c :: rest =>
    if c == 'e' || c == 'E' then
      match rest with
      | s :: d :: more =>
        if s == '+' || s == '-' then
          if d.isDigit then
            (digitRun Char.isDigit (d :: more)).bind fun (ds, r) =>
              let e : Int := valueIn 10 ds
              finish whole fraction (some (if s == '-' then -e else e)) false r
          else none
        else if s.isDigit then
          (digitRun Char.isDigit rest).bind fun (ds, r) =>
            finish whole fraction (some (valueIn 10 ds)) false r
        else finish whole fraction none isWhole cs
      | [s] =>
        if s.isDigit then finish whole fraction (some (digit s)) false []
        else finish whole fraction none isWhole cs
      | [] => none
    else finish whole fraction none isWhole cs
  | [] => finish whole fraction none isWhole []

def afterPoint (whole cs : List Char) : Option (Literal × List Char) :=
  match cs with
  | c :: _ =>
    if c.isDigit then
      (digitRun Char.isDigit cs).bind fun (ds, rest) => afterFraction whole ds false rest
    else afterFraction whole [] false cs
  | [] => afterFraction whole [] false []

-- A decimal numeral with a leading zero is zero, unless it goes on as a fraction or an imaginary number.
def leadingZeroFault (whole rest : List Char) : Bool :=
  match whole with
  | '0' :: more =>
    more.any (· != '0') &&
      (match rest with
       | c :: _ => !(c == '.' || c == 'e' || c == 'E' || c == 'j' || c == 'J')
       | [] => true)
  | _ => false

def read (cs : List Char) : Option (Literal × List Char) :=
  match cs with
  | '0' :: 'x' :: rest | '0' :: 'X' :: rest => based 16 isHexDigit rest
  | '0' :: 'o' :: rest | '0' :: 'O' :: rest => based 8 isOctalDigit rest
  | '0' :: 'b' :: rest | '0' :: 'B' :: rest => based 2 isBinaryDigit rest
  | _ =>
    (digitRun Char.isDigit cs).bind fun (whole, rest) =>
      if leadingZeroFault whole rest then none
      else match rest with
        | '.' :: more => afterPoint whole more
        | _ =>
          (afterFraction whole [] true rest).bind fun (value, r) =>
            match value with
            | .int _ => if maxDigits < whole.length then none else some (value, r)
            | _ => some (value, r)

end Whittle.Numeral
