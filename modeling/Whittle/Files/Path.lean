import Whittle.Text.Blank

namespace Whittle

structure Path where
  -- No slash, one, or exactly two.
  slashes : Nat
  parts : List String
  deriving DecidableEq, Repr

namespace Path

-- Empty parts and single dots vanish; double dots stay, because what they mean depends on the files that there are.
def of (s : String) : Path :=
  let cs := s.toList
  let lead := (cs.takeWhile (· == '/')).length
  let parts := (Text.splitAt '/' cs).map String.ofList
  ⟨if lead == 2 then 2 else min lead 1, parts.filter fun p => !p.isEmpty && p != "."⟩

def text (p : Path) : String :=
  match p.slashes, p.parts with
  | 0, [] => "."
  | n, parts => String.join (List.replicate n "/") ++ Text.join "/" parts

def child (p : Path) (name : String) : Path := { p with parts := p.parts ++ [name] }

-- A name with a NUL is no name, and nothing is found or made under it.
def hasNul (p : Path) : Bool := p.parts.any (·.toList.contains '\x00')

def name (p : Path) : String := (p.parts.getLast?).getD ""

def suffix (p : Path) : String :=
  let reversed := p.name.toList.reverse
  let tail := reversed.takeWhile (· != '.')
  let front := reversed.drop (tail.length + 1)
  if tail.isEmpty || tail.length == reversed.length || front.isEmpty then ""
  else String.ofList ('.' :: tail.reverse)

end Path

end Whittle
