import Orchestrator.Plugin.Analyzer
import Orchestrator.Plugin.Script
import Orchestrator.Plugin.Wrapper

/-!
# Plugins

A plugin has a name, by which commands refer to it and under which its settings stand, a summary,
defaults, and a plan for each request.

* `BuiltIn`: the plugins that are more than a program with appliers.
* `Plugin`: all kinds of plugins.
* `PluginRegistry`: plugins by name; `PluginRegistry.standard` holds the twelve that every run has.
-/

namespace Orchestrator

/-- The plugins that are more than a program with appliers. -/
inductive BuiltIn where
  | bootstrap
  | commandLines
  | selector
  | valgrind
  | cppcheck
  | clangTidy
  | scanBuild
  | pmd
  | lcov
  deriving DecidableEq, Repr

namespace BuiltIn

/-- The name of a plugin. -/
def name : BuiltIn → String
  | bootstrap => "bootstrap"
  | commandLines => "command-line-command"
  | selector => "selector"
  | valgrind => "valgrind"
  | cppcheck => "cppcheck"
  | clangTidy => "clang-tidy"
  | scanBuild => "clang-static-analyzer"
  | pmd => "pmd"
  | lcov => "lcov"

/-- What a plugin does, in one line. -/
def summary : BuiltIn → String
  | bootstrap => "Run a bootstrap script in the build directory"
  | commandLines => "Run the command lines configured in the settings"
  | selector => "Run the commands selected through pattern values"
  | valgrind => "Run commands under valgrind"
  | cppcheck => "Run the cppcheck static analyzer"
  | clangTidy => "Run the clang-tidy linter"
  | scanBuild => "Run a build under the clang static analyzer (scan-build)"
  | pmd => "Run a PMD source code analyzer"
  | lcov => "Collect code coverage around a command with lcov"

/-- The settings that a plugin starts from. -/
def defaults (options : RunOptions) : BuiltIn → SettingsTree
  | bootstrap => Script.bootstrapDefaults
  | commandLines => .leaf "command-line-command"
  | selector => .leaf "selector"
  | valgrind => Wrapper.valgrindDefaults options
  | cppcheck => Analyzer.cppcheckDefaults options
  | clangTidy => Analyzer.clangTidyDefaults
  | scanBuild => Wrapper.scanBuildDefaults options
  | pmd => Analyzer.pmdDefaults options
  | lcov => Wrapper.lcovDefaults

/-- The plan of a plugin. -/
def plan (r : Request) : BuiltIn → Except PluginFault (List Step)
  | bootstrap => Script.bootstrap r
  | commandLines => Script.commandLines r
  | selector => Wrapper.selector r
  | valgrind => Wrapper.valgrind r
  | cppcheck => Analyzer.cppcheck r
  | clangTidy => Analyzer.clangTidy r
  | scanBuild => Wrapper.scanBuild r
  | pmd => Analyzer.pmd r
  | lcov => Wrapper.lcov r

end BuiltIn

/-- A plugin. -/
inductive Plugin where
  /-- One of the plugins with code of their own. -/
  | builtIn (b : BuiltIn)
  /-- A program with appliers. -/
  | strategy (s : Strategy)
  /-- A plugin that adds nothing to its task and whose applications are of interest; it may be told
  to fail. -/
  | memory (name : String) (fails : Bool)
  deriving DecidableEq, Repr

namespace Plugin

/-- The name of a plugin. -/
def name : Plugin → String
  | builtIn b => b.name
  | strategy s => s.name
  | memory name _ => name

/-- What a plugin does, in one line. -/
def summary : Plugin → String
  | builtIn b => b.summary
  | strategy s => s.summary
  | memory _ _ => "Records every invocation (testing only)"

/-- The settings that a plugin starts from. -/
def defaults (options : RunOptions) : Plugin → SettingsTree
  | builtIn b => b.defaults options
  | strategy s => s.defaults options
  | memory name _ => .leaf name

/-- The plan of a plugin. -/
def plan (r : Request) : Plugin → Except PluginFault (List Step)
  | builtIn b => b.plan r
  | strategy s => s.plan r
  | memory name fails =>
    if fails then .error (.toldToFail name) else .ok (emitExpanded r.task r.patterns)

/-- Whether the applications of a plugin are of interest. -/
def isMemory : Plugin → Bool
  | memory _ _ => true
  | _ => false

end Plugin

/-- Plugins by name. -/
structure PluginRegistry where
  /-- Each plugin, under its own name. -/
  byName : KeyedMap Plugin
  deriving DecidableEq, Inhabited, Repr

namespace PluginRegistry

/-- The registry without plugins. -/
def empty : PluginRegistry := ⟨.empty⟩

/-- Registers a plugin, in the place of an earlier one of its name. -/
def register (r : PluginRegistry) (p : Plugin) : PluginRegistry :=
  ⟨r.byName.insert p.name p⟩

/-- The plugins that every run has. -/
def standard : PluginRegistry :=
  ([.strategy .gnuMake, .strategy .ninja, .strategy .scons, .builtIn .bootstrap,
    .builtIn .commandLines, .builtIn .selector, .builtIn .valgrind, .builtIn .cppcheck,
    .builtIn .clangTidy, .builtIn .scanBuild, .builtIn .pmd, .builtIn .lcov] : List Plugin).foldl
    register empty

/-- The plugin of a name. -/
def get? (r : PluginRegistry) (name : String) : Option Plugin :=
  r.byName.get? name

/-- Whether a name is registered. -/
def contains (r : PluginRegistry) (name : String) : Bool :=
  r.byName.contains name

/-- The plugins, in the order of their names. -/
def toList (r : PluginRegistry) : List Plugin :=
  r.byName.values

end PluginRegistry
end Orchestrator
