
namespace Whittle.Config

def templateLines : List String := [
  "# codemend configuration",
  "version: \"1.0\"",
  "",
  "# ==== Paths ====",
  "paths:",
  "  - \"src\"",
  "",
  "include:",
  "  - \"**/*.py\"",
  "",
  "exclude:",
  "  - \"**/.venv/**\"",
  "  - \"**/venv/**\"",
  "  - \"**/__pycache__/**\"",
  "  - \"**/build/**\"",
  "  - \"**/dist/**\"",
  "",
  "# ==== Report ====",
  "output: \"codemend_results\"   # report.json is written here",
  "report: true",
  "",
  "# ==== Rules ====",
  "# Only the rules listed here run.",
  "rules:",
  "  remove_version_id_check:",
  "    # Minimum version the code is guaranteed to run on: \"3.8\", \"3.10.2\" or 31000.",
  "    # Leave unset to use the lower bound of [project].requires-python.",
  "    # target_version: \"3.8\"",
  "    constant_name: PY_VERSION_ID",
  "  remove_extra_arguments: \x7b\x7d"]

def template : String := String.join (templateLines.map (· ++ "\n"))

end Whittle.Config
