import Whittle.Diff.Alignment
import Whittle.Text.Blank
import Whittle.Text.Line

namespace Whittle.Diff

structure Part where
  isEqual : Bool
  left : Nat
  leftEnd : Nat
  right : Nat
  rightEnd : Nat
  deriving DecidableEq, Repr

def gap (i ai j bj : Nat) : List Part := if i < ai || j < bj then [⟨false, i, ai, j, bj⟩] else []

def partsFrom (leftLength rightLength : Nat) : (i j : Nat) → List Run → List Part
  | i, j, [] => gap i leftLength j rightLength
  | i, j, r :: rest =>
    gap i r.left j r.right ++
      ⟨true, r.left, r.left + r.size, r.right, r.right + r.size⟩ ::
        partsFrom leftLength rightLength (r.left + r.size) (r.right + r.size) rest

def parts (left right : List String) : List Part :=
  partsFrom left.length right.length 0 0 (align left right)

def context : Nat := 3

namespace Part

def keepEnd (p : Part) : Part :=
  if p.isEqual then { p with left := max p.left (p.leftEnd - context), right := max p.right (p.rightEnd - context) }
  else p

def keepFront (p : Part) : Part :=
  if p.isEqual then
    { p with leftEnd := min p.leftEnd (p.left + context), rightEnd := min p.rightEnd (p.right + context) }
  else p

def isWide (p : Part) : Bool := p.isEqual && 2 * context < p.leftEnd - p.left

end Part

def mapLast {α : Type} (f : α → α) : List α → List α
  | [] => []
  | [a] => [f a]
  | a :: rest => a :: mapLast f rest

def mapFirst {α : Type} (f : α → α) : List α → List α
  | [] => []
  | a :: rest => f a :: rest

-- Cuts the parts into hunks at wide equal parts; `group` is the hunk so far, reversed.
def cutHunks : (group : List Part) → List Part → List (List Part)
  | group, [] => [group.reverse]
  | group, p :: rest =>
    if p.isWide then (p.keepFront :: group).reverse :: cutHunks [p.keepEnd] rest
    else cutHunks (p :: group) rest

def hasChange (hunk : List Part) : Bool := hunk.any (!·.isEqual)

def hunks (left right : List String) : List (List Part) :=
  (cutHunks [] (mapLast Part.keepFront (mapFirst Part.keepEnd (parts left right)))).filter hasChange

-- A range of lines: its first line and its length, which is left out when it is one. An empty range names the line
-- before it.
def rangeText (first last : Nat) : String :=
  let n := last - first
  if n == 1 then toString (first + 1)
  else if n == 0 then toString first ++ ",0"
  else toString (first + 1) ++ "," ++ toString n

def marked (mark : String) (lines : List String) (first last : Nat) : List String :=
  ((lines.drop first).take (last - first)).map (mark ++ ·)

def partText (left right : List String) (p : Part) : List String :=
  if p.isEqual then marked " " left p.left p.leftEnd
  else marked "-" left p.left p.leftEnd ++ marked "+" right p.right p.rightEnd

def hunkText (left right : List String) (hunk : List Part) : List String :=
  match hunk.head?, hunk.getLast? with
  | some first, some last =>
    ("@@ -" ++ rangeText first.left last.leftEnd ++ " +" ++ rangeText first.right last.rightEnd ++ " @@\n") ::
      hunk.flatMap (partText left right)
  | _, _ => []

def unified (leftName rightName : String) (left right : List String) : List String :=
  match hunks left right with
  | [] => []
  | hs => ("--- " ++ leftName ++ "\n") :: ("+++ " ++ rightName ++ "\n") :: hs.flatMap (hunkText left right)

def textLines (s : String) : List String := (Text.lines s.toList).map String.ofList

end Whittle.Diff
