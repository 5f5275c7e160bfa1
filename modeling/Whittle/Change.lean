import Whittle.Diff.Unified

namespace Whittle

structure Change where
  path : String
  before : String
  after : String
  applied : List String := []
  error : Option String := none
  deriving DecidableEq, Repr

namespace Change

def isChanged (c : Change) : Bool := c.error.isNone && c.before != c.after

def diff (c : Change) : String :=
  if c.isChanged then
    String.join (Diff.unified ("a/" ++ c.path) ("b/" ++ c.path) (Diff.textLines c.before) (Diff.textLines c.after))
  else ""

end Change

structure Outcome where
  files : List Change
  isDryRun : Bool

namespace Outcome

def changed (o : Outcome) : List Change := o.files.filter Change.isChanged

def failed (o : Outcome) : List Change := o.files.filter (·.error.isSome)

def notable (o : Outcome) : List Change := o.files.filter fun c => c.isChanged || c.error.isSome

def count (counts : List (String × Nat)) (name : String) : List (String × Nat) :=
  match counts with
  | [] => [(name, 1)]
  | (n, k) :: rest => if n == name then (n, k + 1) :: rest else (n, k) :: count rest name

def ruleCounts (o : Outcome) : List (String × Nat) := (o.changed.flatMap Change.applied).foldl count []

end Outcome

end Whittle
