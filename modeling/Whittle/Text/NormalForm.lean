import Whittle.Text.Composite
import Whittle.Text.Lookalike

namespace Whittle.Text

-- How deep a composite can nest: a letter with three marks.
def maxNesting : Nat := 4

def takeApart : Nat → Nat → List Nat
  | 0, point => [point]
  | fuel + 1, point =>
    match parts? point with
    | some (a, b) => takeApart fuel a ++ takeApart fuel b
    | none => [point]

def plainPoints (c : Char) : List Nat :=
  if c.toNat < 128 then [c.toNat]
  else match plainForm? c.toNat with
  | some cs => cs.flatMap fun d => takeApart maxNesting d.toNat
  | none => takeApart maxNesting c.toNat

-- Puts a mark among the marks before it, behind those of its class and of lower ones; `marks` is read backwards.
def placeMark (point : Nat) : List Nat → List Nat
  | [] => [point]
  | last :: before =>
    if markClass last ≤ markClass point || markClass last == 0 then point :: last :: before
    else last :: placeMark point before

def sortMarks (done : List Nat) : List Nat → List Nat
  | [] => done.reverse
  | point :: rest =>
    if markClass point == 0 then sortMarks (point :: done) rest else sortMarks (placeMark point done) rest

-- Joins what follows a letter to it. `kept` holds the marks that could not be joined, backwards; a mark of the same
-- class as the last of them stays apart from the letter.
def joinFrom (letter : Nat) (kept : List Nat) : List Nat → List Nat
  | [] => letter :: kept.reverse
  | point :: rest =>
    let isNear := match kept with
      | [] => true
      | last :: _ => markClass last < markClass point
    match if isNear then composite? letter point else none with
    | some joined => joinFrom joined kept rest
    | none =>
      if markClass point == 0 then (letter :: kept.reverse) ++ joinFrom point [] rest
      else joinFrom letter (point :: kept) rest

def normalForm (cs : List Char) : List Char :=
  if cs.all (·.toNat < 128) then cs
  else match sortMarks [] (cs.flatMap plainPoints) with
    | [] => []
    | first :: rest => (joinFrom first [] rest).map Char.ofNat

end Whittle.Text
