import Orchestrator.Plugin.Applier

/-!
# Plugins around other commands

A wrapper runs commands inside a tool, or chooses which commands run.  What it wraps is resolved for
the command that the wrapper itself runs for.

* `Wrapper.valgrind`, `Wrapper.scanBuild`: commands on top of the command line of a tool.
* `Wrapper.selector`: the commands named by the values of patterns.
* `Wrapper.lcov`: commands between the steps of a coverage run, in `CoverageSteps`.
-/

namespace Orchestrator
namespace Wrapper

/-! ## valgrind -/

/-- The defaults of `valgrind`. -/
def valgrindDefaults (options : RunOptions) : SettingsTree :=
  Applier.addDefaults options (.verbosity "--verbose") (.leaf "valgrind")

/-- The argument that chooses a tool of the checker, if one is set. -/
def toolArgument (tool : Option String) : List String :=
  match tool with
  | none => []
  | some tool => if tool = "" then [] else ["--tool=" ++ tool]

/-- Runs commands under the memory checker, once for each combination. -/
def valgrind (r : Request) : Except PluginFault (List Step) := do
  let commands ← r.require "valgrind" .list Names.runCommand
  let tool ← r.read? .text "tool"
  let start := r.task.appendAll ("valgrind" :: toolArgument tool)
  let task ← Applier.applyAll r [.verbosity "--verbose", .commandLine] start
  return (task.expand r.patterns).map (.resolve commands)

/-! ## clang-static-analyzer -/

/-- The defaults of `clang-static-analyzer`. -/
def scanBuildDefaults (options : RunOptions) : SettingsTree :=
  Applier.addDefaults options (.verbosity "-v") (.leaf "clang-static-analyzer")

/-- Runs build commands under the analyzer.  They choose their own patterns. -/
def scanBuild (r : Request) : Except PluginFault (List Step) := do
  let commands ← r.require "clang-static-analyzer" .list "build-command"
  let task ← Applier.applyAll r [.commandLine, .verbosity "-v"] (r.task.append "scan-build")
  return [.resolve commands task]

/-! ## selector -/

/-- Runs the commands that the values of the selected patterns name. -/
def selector (r : Request) : Except PluginFault (List Step) :=
  if r.settings.contains [Names.patterns] then
    .ok [.resolve (r.patterns.flatMap Pattern.values) r.task]
  else
    .error (.missingSetting "selector" r.command Names.patterns)

/-! ## lcov -/

/-- The defaults of `lcov`. -/
def lcovDefaults : SettingsTree :=
  .node "lcov" <|
    [("info-file", "lcov-plugin.info"), ("base-directory", "."), ("directory", "."),
      ("zero-counters", "no"), ("gen-html", "no"), ("gen-html-output", "."),
      ("gen-html-title", "Hello")].map fun (key, value) => .node key [.leaf value]

/-- The steps around the commands of a coverage run. -/
structure CoverageSteps where
  /-- Resets the counters, before the commands. -/
  zeroCounters : Option Task
  /-- Collects the counters, after the commands. -/
  capture : Task
  /-- Removes files that are not to be covered. -/
  exclude : Option Task
  /-- Writes the report. -/
  report : Option Task
  deriving DecidableEq, Repr

/-- One call of the coverage tool. -/
def coverageCall (r : Request) (baseDir dir : String) (tail extra : List String) : Task :=
  r.task.appendAll
    (["lcov", "--base-directory", baseDir, "--directory", dir] ++ tail ++ extra)

/-- The steps that a configuration asks for. -/
def coverageSteps (r : Request) : Except PluginFault CoverageSteps := do
  let info ← r.readD .text "info-file" ""
  let baseDir ← r.readD .text "base-directory" ""
  let dir ← r.readD .text "directory" ""
  let extra ← r.readD .list Names.commandLine []
  let zero ← r.readD .yesNo "zero-counters" false
  let excludes ← r.readD .list "excludes" []
  let html ← r.readD .yesNo "gen-html" false
  let output ← r.readD .text "gen-html-output" ""
  let title ← r.readD .text "gen-html-title" ""
  let htmlExtra ← r.readD .list "gen-html-command-line" []
  return {
    zeroCounters :=
      if zero then some (coverageCall r baseDir dir ["--zerocounters"] extra) else none
    capture := coverageCall r baseDir dir ["--capture", "--output", info] extra
    exclude :=
      if excludes.isEmpty then none
      else some <| r.task.appendAll <|
        ["lcov", "--remove", info] ++ (excludes.map fun e => "\"" ++ e ++ "\"") ++
          ["--output-file", info] ++ extra
    report :=
      if html then
        some <| r.task.appendAll <|
          ["genhtml", "--output-directory", output, "--title", title, info] ++ htmlExtra
      else none }

/-- The steps around the commands, for one combination. -/
def CoverageSteps.block (s : CoverageSteps) (commands : List String) (task : Task)
    (c : Combination) : List Step :=
  let own (step : Option Task) : List Step := step.toList.map fun t => .emit (t.substitute c)
  own s.zeroCounters ++ [.resolve commands task] ++ own (some s.capture) ++ own s.exclude ++
    own s.report

/-- Runs commands and collects their coverage, once for each combination. -/
def lcov (r : Request) : Except PluginFault (List Step) := do
  let commands ← r.require "lcov" .list Names.runCommand
  let steps ← coverageSteps r
  return (Combination.ofPatterns r.patterns).flatMap (steps.block commands r.task)

end Wrapper
end Orchestrator
