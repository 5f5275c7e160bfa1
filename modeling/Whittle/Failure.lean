import Whittle.Config.Problem
import Whittle.Document.Toml
import Whittle.Document.Yaml.Build
import Whittle.Files.Workspace
import Whittle.Syntax.Parser.Statement
import Whittle.Syntax.Render
import Whittle.Version

namespace Whittle

inductive Failure where
  | version (e : Version.Invalid)
  | source (e : ParseError)
  | render (e : Render.Fault)
  | endless
  | unknownRules (names available : List String)
  | undecodable (e : Utf8.Fault)
  | toml (text : String) (e : Toml.Fault)
  | yaml (e : Yaml.Fault)
  | projectShape
  | toolShape
  | problems (ps : List Config.Problem)
  | missingConfig (p : Path)
  | configFormat (suffix : String)
  | obstacle (o : Workspace.Obstacle)
  | endOfInput

namespace Failure

def message : Failure → String
  | .version e => e.message
  | .source e => e.message
  | .render e => e.message
  | .endless => "maximum recursion depth exceeded"
  | .unknownRules names available =>
    "Unknown rule(s): " ++ Text.join ", " names ++ ". Available: " ++ Text.join ", " available
  | .undecodable e => e.message
  | .toml text e => e.message text
  | .yaml e => e.message
  | .projectShape => "the project is no table"
  | .toolShape => "the tools are no table"
  | .problems ps => Config.problemsText ps
  | .missingConfig p => "Configuration file not found: " ++ p.text
  | .configFormat suffix => "Unsupported configuration format: " ++ suffix
  | .obstacle .occupied => "a file is in the way"
  | .obstacle .throughFile => "the path leads through a file"
  | .obstacle .isFolder => "the path leads to a folder"
  | .obstacle .nul => "embedded null byte"
  | .endOfInput => "the input has ended"

def isBadValue : Yaml.Fault → Bool
  | .codePoint huge => !huge
  | .undecodable _ | .noInteger _ _ | .longInteger _ | .noFloat _ | .moment _ => true
  | .malformed | .unclosed | .surrogate | .noBoolean _ | .emptyNumber | .hugeWeight | .noMoment => false

-- A failure that lies in what the user gave is reported, and the program ends in good order.
def isReported : Failure → Bool
  | .version _ | .unknownRules _ _ | .undecodable _ | .toml _ _ | .problems _ | .missingConfig _ | .configFormat _
  | .obstacle .nul => true
  | .yaml e => isBadValue e
  | _ => false

-- What becomes of a configuration that is no text of characters depends on where that text is used, and is left open.
def isOpen : Failure → Bool
  | .yaml .surrogate => true
  | _ => false

end Failure

end Whittle
