import Whittle.Text.Blank

namespace Whittle.Config

inductive Complaint where
  | noList
  | noDictionary
  | noDocument
  | noText
  | noEncodedText
  | noBoolean
  | unclearBoolean
  | noInteger
  | unclearInteger
  | fraction
  | infinite
  | tooLarge
  | extra
  | key
  | unknownRule
  deriving DecidableEq, Repr

def Complaint.message : Complaint → String
  | .noList => "Input should be a valid list"
  | .noDictionary => "Input should be a valid dictionary"
  | .noDocument => "Input should be a valid dictionary or instance of CodemendConfigModel"
  | .noText => "Input should be a valid string"
  | .noEncodedText => "Input should be a valid string, unable to parse raw data as a unicode string"
  | .noBoolean => "Input should be a valid boolean"
  | .unclearBoolean => "Input should be a valid boolean, unable to interpret input"
  | .noInteger => "Input should be a valid integer"
  | .unclearInteger => "Input should be a valid integer, unable to parse string as an integer"
  | .fraction => "Input should be a valid integer, got a number with a fractional part"
  | .infinite => "Input should be a finite number"
  | .tooLarge => "Unable to parse input string as an integer, exceeded maximum size"
  | .extra => "Extra inputs are not permitted"
  | .key => "Keys should be strings"
  | .unknownRule => "unknown rule"

structure Problem where
  place : List String
  complaint : Complaint
  deriving DecidableEq, Repr

namespace Problem

def placeText (place : List String) : String :=
  match Text.join "." place with
  | "" => "<root>"
  | s => s

def text (p : Problem) : String := placeText p.place ++ ": " ++ p.complaint.message

def below (part : String) (p : Problem) : Problem := { p with place := part :: p.place }

-- A problem of a part that is checked on its own; a place without text names the part itself.
def within (parts : List String) (p : Problem) : Problem :=
  { p with place := if (Text.join "." p.place).isEmpty then parts else parts ++ p.place }

end Problem

def problemsText (ps : List Problem) : String := Text.join "\n" (ps.map Problem.text)

abbrev Checked (α : Type) := Except (List Problem) α

namespace Checked

def refuse {α : Type} (c : Complaint) : Checked α := .error [⟨[], c⟩]

def problems {α : Type} : Checked α → List Problem
  | .ok _ => []
  | .error ps => ps

def map {α β : Type} (f : α → β) (c : Checked α) : Checked β :=
  match c with
  | .ok a => .ok (f a)
  | .error ps => .error ps

def below {α : Type} (part : String) (c : Checked α) : Checked α :=
  match c with
  | .ok a => .ok a
  | .error ps => .error (ps.map (Problem.below part))

-- Applies one result to another; the problems of both are kept.
def app {α β : Type} (f : Checked (α → β)) (a : Checked α) : Checked β :=
  match f, a with
  | .ok f, .ok a => .ok (f a)
  | f, a => .error (f.problems ++ a.problems)

def all {α : Type} : List (Checked α) → Checked (List α)
  | [] => .ok []
  | c :: rest => (c.map List.cons).app (all rest)

end Checked

end Whittle.Config
