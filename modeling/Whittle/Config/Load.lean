import Whittle.Config.Settings
import Whittle.Project.Manifest
import Whittle.Text.Line

namespace Whittle.Config

def fileNames : List String := ["codemend.yaml", "codemend.yml", ".codemend.yaml", ".codemend.yml"]

def tableName : String := "codemend"

-- Whether a value holds the name of the table: as a key, as an item or as a part of a text.
def mentionsTable : Value → Except Failure Bool
  | .mapping es => .ok (Value.get? es tableName).isSome
  | .list items => .ok (items.any (·.sameKey (.text tableName)))
  | .text s => .ok (Text.isPart tableName.toList s.toList)
  | _ => .error .toolShape

def hasTable (es : Toml.Entries) : Except Failure Bool :=
  match Value.get? es "tool" with
  | none => .ok false
  | some v => mentionsTable v

-- Without the table of its own the whole document is taken.
def table (es : Toml.Entries) : Except Failure Value := do
  if ← hasTable es then
    match Value.get? es "tool" with
    | some (.mapping tools) => return (Value.get? tools tableName).getD .null
    | _ => throw .toolShape
  else return .mapping es

-- Whether the manifest at a path has settings; one that cannot be read has none.
def manifestHasTable (w : Workspace) (p : Path) : Except Failure Bool :=
  match w.read? p with
  | none => .ok false
  | some content =>
    match Manifest.document content with
    | .error e => if Manifest.isMalformed e then .ok false else .error e
    | .ok es => hasTable es

def find? (w : Workspace) (base : Path) : Except Failure (Option Path) := do
  match fileNames.find? fun n => w.exists? (base.child n) with
  | some n => return some (base.child n)
  | none =>
    let p := base.child Manifest.fileName
    if w.exists? p then return (if ← manifestHasTable w p then some p else none) else return none

def yamlValue (content : Bytes) : Except Failure Value := (Yaml.parse (.ofBytes content)).mapError .yaml

def settingsOf (v : Value) : Except Failure Settings := (Settings.ofValue v).mapError .problems

def ofContent (suffix : String) (content : Bytes) : Except Failure Settings := do
  if suffix == ".toml" then settingsOf (← table (← Manifest.document content))
  else
    let v ← yamlValue content
    if v.isTrue then settingsOf v else return {}

def suffixes : List String := [".yaml", ".yml", ".toml"]

def loadFile (w : Workspace) (p : Path) : Except Failure Settings := do
  if !w.exists? p then throw (.missingConfig p)
  let suffix := Text.lower p.suffix
  if !suffixes.contains suffix then throw (.configFormat suffix)
  match w.read? p with
  | none => throw (.obstacle .isFolder)
  | some content => return { ← ofContent suffix content with source := some p }

def notice : Option Path → String
  | some p => "📋 Using configuration: " ++ p.text ++ "\n"
  | none => "📋 No configuration file found, using defaults (run 'codemend init' to create one)\n"

def load (w : Workspace) (path : Option Path) (quiet : Bool) : String × Except Failure Settings :=
  match path with
  | some p => ("", loadFile w p)
  | none =>
    match find? w (.of ".") with
    | .error e => ("", .error e)
    | .ok found => (if quiet then "" else notice found, found.elim (.ok {}) (loadFile w))

end Whittle.Config
