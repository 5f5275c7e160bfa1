import Whittle.CommandLine.Words

namespace Whittle.CommandLine

structure ProcessOptions where
  paths : List String := []
  config : Option String := none
  isDryRun : Bool := false
  output : Option String := none
  noReport : Bool := false
  deriving DecidableEq, Repr

inductive Command where
  | none
  | process (o : ProcessOptions)
  | listRules
  | init (force : Bool)
  | showConfig (config : Option String)
  deriving DecidableEq, Repr

def Command.paths : Command → List String
  | .process o => o.paths ++ o.config.toList ++ o.output.toList
  | .showConfig config => config.toList
  | _ => []

def textLines (lines : List String) : String := String.join (lines.map (· ++ "\n"))

def helpLine (gap : String) : String := "  -h, --help" ++ gap ++ "show this help message and exit"

def configSwitch : Switch := { names := ["--config"], takesValue := true }

def dryRunSwitch : Switch := { names := ["--dry-run"] }

def outputSwitch : Switch := { names := ["--output"], takesValue := true }

def noReportSwitch : Switch := { names := ["--no-report"] }

def forceSwitch : Switch := { names := ["--force"] }

def programSyntax : Syntax where
  program := "codemend"
  usage := textLines ["usage: codemend [-h] \x7bprocess,list-rules,init,show-config\x7d ..."]
  details := textLines [
    "",
    "Rewrite Python sources with narrow refactoring rules",
    "",
    "positional arguments:",
    "  \x7bprocess,list-rules,init,show-config\x7d",
    "    process             Apply the configured rules",
    "    list-rules          List available rules",
    "    init                Generate configuration (codemend.yaml)",
    "    show-config         Show the effective configuration",
    "",
    "options:",
    helpLine "            "]
  switches := [help]

def processSyntax : Syntax where
  program := "codemend process"
  usage := textLines [
    "usage: codemend process [-h] [--config CONFIG] [--dry-run] [--output OUTPUT]",
    "                        [--no-report]",
    "                        [paths ...]"]
  details := textLines [
    "",
    "positional arguments:",
    "  paths            Files or directories (default from config)",
    "",
    "options:",
    helpLine "       ",
    "  --config CONFIG  Path to config (YAML or pyproject.toml)",
    "  --dry-run        Show diffs without writing files",
    "  --output OUTPUT  Override report directory (default from config)",
    "  --no-report      Do not write report.json"]
  switches := [help, configSwitch, dryRunSwitch, outputSwitch, noReportSwitch]

def listRulesSyntax : Syntax where
  program := "codemend list-rules"
  usage := textLines ["usage: codemend list-rules [-h]"]
  details := textLines ["", "options:", helpLine "  "]
  switches := [help]

def initSyntax : Syntax where
  program := "codemend init"
  usage := textLines ["usage: codemend init [-h] [--force]"]
  details := textLines [
    "",
    "options:",
    helpLine "  ",
    "  --force     Overwrite existing codemend.yaml if present"]
  switches := [help, forceSwitch]

def showConfigSyntax : Syntax where
  program := "codemend show-config"
  usage := textLines ["usage: codemend show-config [-h] [--config CONFIG]"]
  details := textLines [
    "",
    "options:",
    helpLine "       ",
    "  --config CONFIG  Path to config (YAML or pyproject.toml)"]
  switches := [help, configSwitch]

def Syntax.helpText (x : Syntax) : String := x.usage ++ x.details

def Syntax.errorText (x : Syntax) (message : String) : String := x.usage ++ x.program ++ ": error: " ++ message ++ "\n"

def commandNames : List String := ["process", "list-rules", "init", "show-config"]

-- Reads a command from the words after its name; the words that nobody asked for come with it.
def readCommand (name : String) (words : List String) : Except Stop (Command × List String) :=
  match name with
  | "process" => do
    let g ← processSyntax.read true words
    return (.process {
      paths := g.arguments, config := g.value? configSwitch, isDryRun := g.has dryRunSwitch,
      output := g.value? outputSwitch, noReport := g.has noReportSwitch }, g.extra)
  | "list-rules" => do
    let g ← listRulesSyntax.read false words
    return (.listRules, g.extra)
  | "init" => do
    let g ← initSyntax.read false words
    return (.init (g.has forceSwitch), g.extra)
  | "show-config" => do
    let g ← showConfigSyntax.read false words
    return (.showConfig (g.value? configSwitch), g.extra)
  | _ =>
    .error (.error programSyntax ("argument cmd: invalid choice: " ++ Text.quote name ++ " (choose from " ++
      Text.join ", " (commandNames.map Text.quote) ++ ")"))

-- Reads the words of a command line up to the name of a command; that and all words after it are the command's.
def readProgram : List (String × Word) → (extra : List String) → Except Stop (Command × List String)
  | [], extra => .ok (.none, extra)
  | (w, .unknown) :: rest, extra => readProgram rest (extra ++ [w])
  | (_, .switch s name value) :: rest, extra => do
    let taken ← value.elim (.ok [(s, "")]) (programSyntax.within s name)
    let _ ← Given.take {} programSyntax taken
    readProgram rest extra
  | [(w, .dashes)], extra => .ok (.none, extra ++ [w])
  | (name, _) :: rest, extra => do
    let (c, more) ← readCommand name (rest.map (·.1))
    return (c, extra ++ more)

def Command.parse (words : List String) : Except Stop Command := do
  let (c, extra) ← readProgram (← programSyntax.classifyAll words) []
  if extra.isEmpty then return c
  else throw (.error programSyntax ("unrecognized arguments: " ++ Text.join " " extra))

end Whittle.CommandLine
