
namespace Whittle.Diff

-- A run of equal lines: `size` lines from `left` on equal those from `right` on.
structure Run where
  left : Nat
  right : Nat
  size : Nat
  deriving DecidableEq, Repr

structure Pair where
  left : Array Nat
  right : Array Nat
  places : Array (List Nat)

def frequentFrom : Nat := 200

def placesOf (right : List Nat) (n line : Nat) : List Nat :=
  let js := (right.zipIdx.filter fun (l, _) => l == line).map (·.2)
  if frequentFrom ≤ n && n / 100 + 1 < js.length then [] else js

def distinctLines (lines : List String) : List String :=
  (lines.foldl (fun (seen : List String) l => if seen.contains l then seen else l :: seen) []).reverse

def Pair.of (left right : List String) : Pair :=
  let known := distinctLines right
  -- a line that is not on the right gets a number of its own without places
  let number (l : String) : Nat := known.idxOf l
  let rs := right.map number
  { left := (left.map number).toArray
    right := rs.toArray
    places := ((List.range known.length).map (placesOf rs rs.length)).toArray }

namespace Pair

variable (p : Pair)

-- A number beyond the known ones belongs to no line on the right.
def same (i j : Nat) : Bool :=
  match p.left[i]?, p.right[j]? with
  | some a, some b => a == b
  | _, _ => false

-- Runs that end at a place on the left: for each place on the right that continues one, its length.
abbrev Ends := List (Nat × Nat)

def scanPlaces (lo hi i : Nat) (previous : Ends) : List Nat → Run → Ends → Run × Ends
  | [], best, ends => (best, ends.reverse)
  | j :: js, best, ends =>
    if j < lo then scanPlaces lo hi i previous js best ends
    else if hi ≤ j then (best, ends.reverse)
    else
      let before := if j = 0 then 0 else (previous.lookup (j - 1)).getD 0
      let k := before + 1
      let best := if best.size < k then ⟨i + 1 - k, j + 1 - k, k⟩ else best
      scanPlaces lo hi i previous js best ((j, k) :: ends)

def scanLeft (lo hi : Nat) : (n i : Nat) → Run → Ends → Run
  | 0, _, best, _ => best
  | n + 1, i, best, previous =>
    let js := (p.left[i]?.bind fun a => p.places[a]?).getD []
    let (best, ends) := scanPlaces lo hi i previous js best []
    scanLeft lo hi n (i + 1) best ends

def extendFront (alo blo : Nat) : Nat → Run → Run
  | 0, r => r
  | n + 1, r =>
    if alo < r.left && blo < r.right && p.same (r.left - 1) (r.right - 1) then
      extendFront alo blo n ⟨r.left - 1, r.right - 1, r.size + 1⟩
    else r

def extendEnd (ahi bhi : Nat) : Nat → Run → Run
  | 0, r => r
  | n + 1, r =>
    if r.left + r.size < ahi && r.right + r.size < bhi && p.same (r.left + r.size) (r.right + r.size) then
      extendEnd ahi bhi n { r with size := r.size + 1 }
    else r

-- The longest run between two ranges; of several the one that starts first on the left, then on the right.
def longest (alo ahi blo bhi : Nat) : Run :=
  let found := p.scanLeft blo bhi (ahi - alo) alo ⟨alo, blo, 0⟩ []
  p.extendEnd ahi bhi (ahi - alo) (p.extendFront alo blo (ahi - alo) found)

-- The runs between two ranges, from front to end. A run shortens the ranges, so the fuel bounds the depth.
def runs : Nat → (alo ahi blo bhi : Nat) → List Run
  | 0, _, _, _, _ => []
  | fuel + 1, alo, ahi, blo, bhi =>
    let r := p.longest alo ahi blo bhi
    if r.size = 0 then []
    else
      let before := if alo < r.left && blo < r.right then runs fuel alo r.left blo r.right else []
      let after :=
        if r.left + r.size < ahi && r.right + r.size < bhi then
          runs fuel (r.left + r.size) ahi (r.right + r.size) bhi
        else []
      before ++ r :: after

end Pair

def joinRuns (current : Run) : List Run → List Run
  | [] => if current.size = 0 then [] else [current]
  | r :: rest =>
    if current.left + current.size = r.left && current.right + current.size = r.right then
      joinRuns { current with size := current.size + r.size } rest
    else if current.size = 0 then joinRuns r rest
    else current :: joinRuns r rest

def align (left right : List String) : List Run :=
  let p := Pair.of left right
  joinRuns ⟨0, 0, 0⟩ (p.runs (left.length + 1) 0 left.length 0 right.length)

end Whittle.Diff
