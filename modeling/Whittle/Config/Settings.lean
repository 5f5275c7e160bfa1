import Whittle.Config.Schema
import Whittle.Files.Path
import Whittle.Report

namespace Whittle.Config

structure Settings where
  paths : List String := ["src"]
  wanted : List String := ["**/*.py"]
  unwanted : List String := ["**/.venv/**", "**/venv/**", "**/__pycache__/**", "**/build/**", "**/dist/**"]
  output : String := "codemend_results"
  report : Bool := true
  rules : List (String × Entries) := [("remove_version_id_check", []), ("remove_extra_arguments", [])]
  source : Option Path := none

namespace Settings

def texts (v : Value) : List String := ((Schema.items? v).getD []).map Value.plain

def entriesOf : Value → Entries
  | .mapping es => es
  | _ => []

def rulesOf : Value → List (String × Entries)
  | .list names => names.foldl (fun acc n => Schema.enter n.plain [] acc) []
  | .mapping es => es.foldl (fun acc (n, o) => Schema.enter n.plain (entriesOf o) acc) []
  | _ => []

-- Values are read as they stand, so a word that means a boolean counts as true, like every text that is not empty.
def read (es : Entries) : Settings :=
  let from_ {α : Type} (name : String) (standard : α) (f : Value → α) : α := (Value.get? es name).elim standard f
  let standard : Settings := {}
  { paths := from_ "paths" standard.paths texts
    wanted := from_ "include" standard.wanted texts
    unwanted := from_ "exclude" standard.unwanted texts
    output := from_ "output" standard.output Value.plain
    report := from_ "report" standard.report Value.isTrue
    rules := from_ "rules" standard.rules rulesOf }

def ofValue (v : Value) : Checked Settings := do
  let _ ← Schema.validate v
  return read (entriesOf v)

def ruleLine (name : String) (es : Entries) : String :=
  let opts := Text.join ", " (es.map fun (k, v) => k.plain ++ "=" ++ v.plain)
  "  • " ++ name ++ (if opts.isEmpty then "" else " (" ++ opts ++ ")")

def displayLines (s : Settings) : List String :=
  ["📋 Effective configuration:", ruler] ++
    (s.source.map fun p => "  📄 Source: " ++ p.text).toList ++
    ["  📂 Paths: " ++ Text.join ", " s.paths,
     "  ✅ Include: " ++ Text.join ", " s.wanted,
     "  ❌ Exclude: " ++ Text.join ", " (s.unwanted.take 3) ++ (if 3 < s.unwanted.length then "..." else ""),
     "  📁 Output: " ++ s.output ++ " (report " ++ (if s.report then "on" else "off") ++ ")",
     "\n🔧 Rules:"] ++
    (if s.rules.isEmpty then ["  (none)"] else []) ++
    s.rules.map fun (name, es) => ruleLine name es

def display (s : Settings) : String := Text.join "\n" s.displayLines

end Settings

end Whittle.Config
