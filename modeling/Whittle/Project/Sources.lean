import Whittle.Files.Collect
import Whittle.Project.Manifest
import Whittle.Refactor
import Whittle.Text.Line

namespace Whittle

def Ambient.ofProject (w : Workspace) (start : Path) : Ambient :=
  { token := (Manifest.versionAt w start).map .text }

def sourceText (content : Bytes) : Except Utf8.Fault String := do
  return String.ofList (Text.universalNewlines (← Utf8.decode content).toList)

namespace Engine

-- The file is left as it is if `keep` says so.
def runFile (e : Engine) (keep : Bool) (w : Workspace) (p : Path) : Workspace × Engine × Except Failure Change :=
  let shown := w.shown p (.of ".")
  match sourceText ((w.read? p).getD []) with
  | .error f =>
    (w, e, .ok { path := shown, before := "", after := "", error := some ("UnicodeDecodeError: " ++ f.message) })
  | .ok source =>
    match e.run shown source with
    | (e, .error f) => (w, e, .error f)
    | (e, .ok c) => (if c.isChanged && !keep then w.writeAt (w.resolve p) c.after else w, e, .ok c)

-- A file that is no text is recorded and left alone; a failure stops the run, and what was written stays.
def runFiles (keep : Bool) : List Path → Engine → Workspace → Workspace × Except Failure (List Change)
  | [], _, w => (w, .ok [])
  | p :: rest, e, w =>
    match e.runFile keep w p with
    | (w, _, .error f) => (w, .error f)
    | (w, e, .ok c) =>
      let (w, later) := runFiles keep rest e w
      (w, later.map (c :: ·))

def runPaths (e : Engine) (s : Files.Selection) (keep : Bool) (roots : List String) (w : Workspace) :
    Workspace × Except Failure Outcome :=
  let (w, changes) := runFiles keep (Files.collect w s roots) e w
  (w, changes.map fun cs => ⟨cs, keep⟩)

end Engine

def homeOf (roots : List String) : Path :=
  match roots with
  | [] => .of "."
  | r :: _ => .of r

-- Runs rules over the source files under some roots: all rules, if none are given, and all files, if no pattern
-- says which.
def processPaths (w : Workspace) (roots : List String) (rules : Option (List Rule)) (s : Files.Selection) (keep : Bool) :
    Workspace × Except Failure Outcome :=
  let ambient := Ambient.ofProject w (homeOf roots)
  match rules.elim (Rule.create ambient (Rule.names.map (·, []))) .ok with
  | .error f => (w, .error f)
  | .ok rs =>
    let wanted := if s.wanted.isEmpty then ["**/*.py"] else s.wanted
    (Engine.of rs ambient).runPaths { s with wanted := wanted } keep roots w

end Whittle
