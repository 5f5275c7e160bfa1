import Whittle.Change
import Whittle.Document.Json

namespace Whittle

namespace Change

def json (c : Change) : Json :=
  .object [("path", .string c.path), ("changed", .bool c.isChanged),
    ("applied_rules", .array (c.applied.map .string)), ("error", (c.error.map Json.string).getD .null)]

def summary (showDiff : Bool) (c : Change) : String :=
  match c.error with
  | some e => "❌ " ++ c.path ++ ": " ++ e ++ "\n"
  | none =>
    if c.isChanged then
      "✏️  " ++ c.path ++ "  [" ++ Text.join ", " c.applied ++ "]\n" ++ (if showDiff then c.diff else "")
    else ""

end Change

def ruler : String := String.ofList (List.replicate 50 '━')

namespace Outcome

def json (o : Outcome) : Json :=
  .object [
    ("summary", .object [
      ("total_files", .number o.files.length),
      ("changed_files", .number o.changed.length),
      ("errors", .number o.failed.length),
      ("dry_run", .bool o.isDryRun),
      ("rules", .object (o.ruleCounts.map fun (name, n) => (name, .number n)))]),
    ("files", .array (o.notable.map Change.json))]

def summary (o : Outcome) (showDiffs : Bool) : String :=
  String.join (o.files.map (Change.summary showDiffs)) ++ ruler ++ "\n📊 " ++ toString o.files.length ++
    " files processed, " ++ toString o.changed.length ++ (if o.isDryRun then " would change, " else " changed, ") ++
    toString o.failed.length ++ " errors\n"

end Outcome

end Whittle
