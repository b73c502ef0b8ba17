import Orchestrator.Settings.Reading
import Orchestrator.Task.Basic

/-!
# Plans

A plugin answers with a plan: steps that either produce a task or ask for more commands to be
resolved on top of one.  A plugin never resolves commands itself, so that what it does is plain
data, and all recursion is in one place.

* `Step`: one step of a plan.
* `PluginFault`: why a plugin cannot plan.
* `emitExpanded`: the steps that produce a task once for each combination of patterns.
-/

namespace Orchestrator

/-- One step of a plan. -/
inductive Step where
  /-- Produces a task. -/
  | emit (task : Task)
  /-- Resolves commands on top of a task, for the command that the plugin runs for. -/
  | resolve (commands : List String) (task : Task)
  deriving DecidableEq, Repr

/-- Why a plugin cannot plan. -/
inductive PluginFault where
  /-- A setting that the plugin needs is absent. -/
  | missingSetting (plugin command key : String)
  /-- A setting has the wrong kind. -/
  | settings (source : SettingsError)
  /-- The plugin exists to fail. -/
  | toldToFail (plugin : String)
  deriving DecidableEq, Repr

/-- The wording of a fault. -/
def PluginFault.message : PluginFault → String
  | .missingSetting plugin command key =>
    s!"Could not find the '{key}' setting for command '{command}' in the '{plugin}' settings"
  | .settings source => source.message
  | .toldToFail plugin => s!"'{plugin}' was told to fail"

/-- What a plugin is given to plan with. -/
structure Request where
  /-- The command that the plugin runs for. -/
  command : String
  /-- The merged configuration. -/
  settings : SettingsTree
  /-- The selected patterns. -/
  patterns : List Pattern
  /-- The task to build on. -/
  task : Task

namespace Request

variable {α : Type}

/-- Reads a setting of the configuration. -/
def read? (r : Request) (reading : Reading α) (key : String) : Except PluginFault (Option α) :=
  match r.settings.read? reading [key] with
  | .ok a => .ok a
  | .error e => .error (.settings e)

/-- Reads a setting of the configuration, with a result for when it is absent. -/
def readD (r : Request) (reading : Reading α) (key : String) (fallback : α) :
    Except PluginFault α :=
  (r.read? reading key).map fun a => a.getD fallback

/-- Reads a setting that the plugin cannot do without. -/
def require (r : Request) (plugin : String) (reading : Reading α) (key : String) :
    Except PluginFault α :=
  match r.read? reading key with
  | .ok (some a) => .ok a
  | .ok none => .error (.missingSetting plugin r.command key)
  | .error e => .error e

end Request

/-- The steps that produce a task once for each combination of patterns. -/
def emitExpanded (task : Task) (patterns : List Pattern) : List Step :=
  (task.expand patterns).map .emit

end Orchestrator
