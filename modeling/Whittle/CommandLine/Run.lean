import Whittle.CommandLine.Command
import Whittle.Config.Load
import Whittle.Config.Template
import Whittle.Project.Sources

namespace Whittle.CommandLine

inductive Ending where
  | finished
  | exit (code : Nat)
  | failed (f : Failure)
  | unsaid

def Ending.of (f : Failure) : Ending := if f.isOpen then .unsaid else .failed f

-- Files that were written before a failure stay written.
structure Result where
  files : Workspace
  out : String := ""
  err : String := ""
  ending : Ending := .finished

def codeForChanges : Nat := 1

def codeForErrors : Nat := 2

def given? (value : Option String) : Option String := value.filter (!·.isEmpty)

structure Setup where
  settings : Config.Settings
  roots : List String
  engine : Engine

-- The ambient version is that of the first root's project.
def setUp (w : Workspace) (o : ProcessOptions) (s : Config.Settings) : Except Failure Setup := do
  let roots := if o.paths.isEmpty then s.paths else o.paths
  let ambient := Ambient.ofProject w (homeOf roots)
  return ⟨s, roots, .of (← Rule.create ambient s.rules) ambient⟩

def refused (w : Workspace) (said : String) (f : Failure) : Result :=
  if f.isReported then
    { files := w, out := said ++ "❌ Configuration error: " ++ f.message ++ "\n", ending := .exit codeForErrors }
  else { files := w, out := said, ending := .of f }

def exitCode (o : Outcome) : Nat :=
  if !o.failed.isEmpty then codeForErrors
  else if o.isDryRun && !o.changed.isEmpty then codeForChanges
  else 0

def saveReport (w : Workspace) (folder : Path) (o : Outcome) : Except Failure (Workspace × String) :=
  match w.makeFolders folder with
  | .error e => .error (.obstacle e)
  | .ok w =>
    let p := folder.child "report.json"
    match w.write p o.json.text with
    | .error e => .error (.obstacle e)
    | .ok w => .ok (w, "📝 Report: " ++ p.text ++ "\n")

def conclude (w : Workspace) (said : String) (options : ProcessOptions) (s : Config.Settings) (o : Outcome) : Result :=
  let said := said ++ o.summary o.isDryRun
  if s.report && !options.noReport then
    match saveReport w (.of ((given? options.output).getD s.output)) o with
    | .error f => { files := w, out := said, ending := .failed f }
    | .ok (w, where_) => { files := w, out := said ++ where_, ending := .exit (exitCode o) }
  else { files := w, out := said, ending := .exit (exitCode o) }

def process (w : Workspace) (o : ProcessOptions) : Result :=
  let (said, settings) := Config.load w ((given? o.config).map .of) false
  match settings.bind (setUp w o) with
  | .error f => refused w said f
  | .ok u =>
    match u.engine.runPaths ⟨u.settings.wanted, u.settings.unwanted⟩ o.isDryRun u.roots w with
    | (w, .error f) => { files := w, out := said, ending := .failed f }
    | (w, .ok outcome) => conclude w said o u.settings outcome

def settingsPaths (w : Workspace) (o : ProcessOptions) : List String :=
  match (Config.load w ((given? o.config).map .of) true).2 with
  | .ok s => s.output :: s.paths
  | .error _ => []

def indented (text : String) : List String :=
  let cs := (text.toList.reverse.dropWhile Text.isBlank).reverse
  (Text.lines cs).map fun line => "     " ++ String.ofList (line.filter (!Text.endsLine ·))

def sampleLines (s : Sample) : List String :=
  (if s.options.isEmpty then [] else ["   config: " ++ (Value.mapping s.options).quoted]) ++
    ["   before:"] ++ indented s.before ++ ["   after:"] ++ indented s.after

def ruleLines (r : RuleOutline) : List String :=
  match r.definition with
  | none => []
  | some d => ("🔧 " ++ r.name ++ ": " ++ d.description) :: d.samples.flatMap sampleLines ++ [""]

def listRules (w : Workspace) : Result :=
  { files := w, out := textLines (Rule.all.flatMap fun r => ruleLines r.outline) }

def newConfig : Path := .of "codemend.yaml"

def answer? (input : String) : Option String :=
  if input.isEmpty then none else some (String.ofList (input.toList.takeWhile (· != '\n')))

def isYes (answer : String) : Bool :=
  ["y", "yes"].contains (Text.lower (String.ofList (Text.trim answer.toList)))

def writeConfig (w : Workspace) (said : String) : Result :=
  match w.write newConfig Config.template with
  | .error e => { files := w, out := said, ending := .failed (.obstacle e) }
  | .ok w =>
    { files := w
      out := said ++ textLines [
        "✅ Configuration written: " ++ newConfig.text,
        "\n💡 Next steps:",
        "1. Set rules.remove_version_id_check.target_version (or rely on requires-python)",
        "2. Run 'codemend process --dry-run' to preview the changes"] }

-- Before a file is replaced the user is asked, unless `force` says yes.
def init (w : Workspace) (force : Bool) (input : String) : Result :=
  if w.exists? newConfig && !force then
    let said := "⚠️  Configuration file already exists: " ++ newConfig.text ++ "\nOverwrite? (y/N): "
    match answer? input with
    | none => { files := w, out := said, ending := .failed .endOfInput }
    | some a => if isYes a then writeConfig w said else { files := w, out := said ++ "❌ Cancelled\n" }
  else writeConfig w ""

def showConfig (w : Workspace) (config : Option String) : Result :=
  match Config.load w ((given? config).map .of) true with
  | (said, .error f) => { files := w, out := said, ending := .of f }
  | (said, .ok s) => { files := w, out := said ++ s.display ++ "\n" }

def Command.run (w : Workspace) (input : String) : Command → Result
  | .none => { files := w, out := programSyntax.helpText, ending := .exit 0 }
  | .process o => CommandLine.process w o
  | .listRules => CommandLine.listRules w
  | .init force => CommandLine.init w force input
  | .showConfig config => CommandLine.showConfig w config

def run (w : Workspace) (input : String) (words : List String) : Result :=
  match Command.parse words with
  | .ok c => c.run w input
  | .error (.help x) => { files := w, out := x.helpText, ending := .exit 0 }
  | .error (.error x message) => { files := w, err := x.errorText message, ending := .exit codeForErrors }

end Whittle.CommandLine
