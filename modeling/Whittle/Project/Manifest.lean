import Whittle.Failure
import Whittle.Files.Workspace

namespace Whittle.Manifest

def fileName : String := "pyproject.toml"

def defaultVersion : String := "3.11"

def upwards (place : List String) : List (List String) :=
  (List.range (place.length + 1)).map fun n => place.take (place.length - n)

def nearest? (w : Workspace) (place : List String) : Option Bytes :=
  (upwards place).findSome? fun folder =>
    match w.root.find? (folder ++ [fileName]) with
    | some (.file content) => some content
    | _ => none

def document (content : Bytes) : Except Failure Toml.Entries :=
  match Utf8.decode content with
  | .error e => .error (.undecodable e)
  | .ok text => (Toml.parse text).mapError (.toml text)

def isMalformed : Failure → Bool
  | .toml _ e => !e.isLongInteger
  | _ => false

def required? (entries : Toml.Entries) : Except Failure (Option String) :=
  let project := (Value.get? entries "project").getD .null
  if !project.isTrue then .ok none
  else
    match project with
    | .mapping es =>
      match Value.get? es "requires-python" with
      | some v => .ok (if v.isTrue then some v.plain else none)
      | none => .ok none
    | _ => .error .projectShape

def bound? (content : Bytes) : Except Failure (Option String) :=
  match document content with
  | .error e => if isMalformed e then .ok none else .error e
  | .ok entries => do
    match ← required? entries with
    | none => return none
    | some spec => (Version.lowerBound spec).mapError .version

-- A manifest that cannot be read, or requires nothing, leaves the default.
def version (w : Workspace) (place : List String) : Except Failure String :=
  match nearest? w place with
  | none => .ok defaultVersion
  | some content => do return (← bound? content).getD defaultVersion

def versionAt (w : Workspace) (p : Path) : Except Failure String :=
  if p.hasNul then .error (.obstacle .nul) else version w (w.resolve p)

end Whittle.Manifest
