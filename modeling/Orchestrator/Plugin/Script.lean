import Orchestrator.Plugin.Applier

/-!
# Scripts and free command lines

* `Script.bootstrap`: a script of the build directory.
* `Script.commandLines`: command lines as they stand in the settings, one or several.
-/

namespace Orchestrator
namespace Script

/-- The script that is run when no other is named. -/
def standardScript : String := "bootstrap.sh"

/-- The defaults of `bootstrap`. -/
def bootstrapDefaults : SettingsTree :=
  .node "bootstrap" [.node Names.buildDir [.leaf "."], .node "filename" [.leaf standardScript],
    .leaf Names.commandLine]

/-- Runs a script from inside the build directory.  A relative name gets a leading dot, since a bare
name would be looked up among the installed programs. -/
def bootstrap (r : Request) : Except PluginFault (List Step) := do
  let filename ← r.readD .path "filename" (.ofText standardScript)
  let script := if filename.isAbsolute then filename else (Path.ofText ".").join filename
  let task ← Applier.applyAll r [.commandLine, .environment] (r.task.append script.text)
  let dir ← r.readD .path Names.buildDir (.ofText ".")
  return emitExpanded (task.setWorkingDir dir) r.patterns

/-- The command lines of a configuration: one for each named list, or the single list. -/
def lines (settings : SettingsTree) : List (List String) :=
  match settings.child? Names.commandLine with
  | none => []
  | some node =>
    if node.children.any SettingsTree.hasChildren then
      node.children.filterMap SettingsTree.values?
    else node.values?.toList

/-- Runs the configured command lines, in order and each once for each combination. -/
def commandLines (r : Request) : Except PluginFault (List Step) :=
  let found := lines r.settings
  if found.isEmpty then
    .error (.missingSetting "command-line-command" r.command Names.commandLine)
  else
    (Applier.applyAll r [.environment, .workingDir] r.task).map fun base =>
      found.flatMap fun line => emitExpanded (base.appendAll line) r.patterns

end Script
end Orchestrator
