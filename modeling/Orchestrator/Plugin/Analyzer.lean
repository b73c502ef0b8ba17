import Orchestrator.Plugin.Applier

/-!
# Source analyzers

* `Analyzer.cppcheck`, `Analyzer.clangTidy`, `Analyzer.pmd`: the command line of each analyzer.
-/

namespace Orchestrator
namespace Analyzer

/-- Texts with commas between them. -/
def commaSeparated (texts : List String) : String :=
  String.intercalate "," texts

/-! ## cppcheck -/

/-- The defaults of `cppcheck`. -/
def cppcheckDefaults (options : RunOptions) : SettingsTree :=
  Applier.addDefaults options (.verbosity "--verbose") <|
    .node "cppcheck" [.node "enable-checks" [.leaf "all"], .node "src-dir" [.leaf "."]]

/-- Checks a directory, or a target inside it. -/
def cppcheck (r : Request) : Except PluginFault (List Step) := do
  let checks ← r.readD .list "enable-checks" ["all"]
  let srcDir ← r.readD .text "src-dir" "."
  let target ← r.readD .text "target-path" ""
  let start := r.task.appendAll ["cppcheck", "--enable=" ++ commaSeparated checks]
  let task ← Applier.applyAll r [.verbosity "--verbose", .commandLine] start
  let checked := if target = "" then srcDir else srcDir ++ "/" ++ target
  return emitExpanded (task.append checked) r.patterns

/-! ## clang-tidy -/

/-- The defaults of `clang-tidy`. -/
def clangTidyDefaults : SettingsTree :=
  .node "clang-tidy" [.node "sources" [.leaf "*.cpp"]]

/-- The checks whose warnings are errors; the single word `all` means those that are enabled. -/
def warningsAsErrors (warnings checks : List String) : String :=
  if warnings = ["all"] then commaSeparated checks else commaSeparated warnings

/-- The arguments that choose the checks, each left out when it would be empty. -/
def checkArguments (checks : List String) (warnings : Option (List String)) : List String :=
  let enabled := if checks.isEmpty then [] else ["-checks=" ++ commaSeparated checks]
  let errors := match warnings with
    | none => []
    | some warnings =>
      let listed := warningsAsErrors warnings checks
      if listed = "" then [] else ["-warnings-as-errors=" ++ listed]
  enabled ++ errors

/-- Checks the listed sources. -/
def clangTidy (r : Request) : Except PluginFault (List Step) := do
  let checks ← r.readD .list "checks" []
  let warnings ← r.read? .list "warning-as-errors"
  let start := r.task.appendAll ("clang-tidy" :: checkArguments checks warnings)
  let task ← Applier.applyAll r [.commandLine] start
  let sources ← r.readD .list "sources" ["*.cpp"]
  return emitExpanded (task.appendAll sources) r.patterns

/-! ## pmd -/

/-- The defaults of `pmd`. -/
def pmdDefaults (options : RunOptions) : SettingsTree :=
  Applier.addDefaults options (.verbosity "-verbose") (.leaf "pmd")

/-- The arguments that only the copy-paste detector takes. -/
def duplicationArguments (r : Request) (tool : String) : Except PluginFault (List String) := do
  if tool = "cpd" then
    let tokens ← r.read? .count "minimum-tokens"
    let files ← r.readD .list "files" []
    let limit := match tokens with
      | some n => ["--minimum-tokens", toString n]
      | none => []
    return limit ++ files.flatMap fun file => ["--files", file]
  return []

/-- Runs one of the tools of the analyzer. -/
def pmd (r : Request) : Except PluginFault (List Step) := do
  let exec ← r.require "pmd" .text "exec"
  let tool ← r.require "pmd" .text "tool"
  let special ← duplicationArguments r tool
  let language ← r.read? .text "language"
  let chosen := match language with
    | some language => ["--language", language]
    | none => []
  let start := r.task.appendAll ([exec, tool] ++ special ++ chosen)
  let task ← Applier.applyAll r [.verbosity "-verbose", .commandLine] start
  return emitExpanded task r.patterns

end Analyzer
end Orchestrator
