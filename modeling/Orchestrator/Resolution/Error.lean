import Orchestrator.Execution.Error
import Orchestrator.Plugin.Plan

/-!
# Why a command cannot be resolved

* `DispatchError`: the causes, with the plugins inside which they arose.
* `DispatchError.message`: their wording, outermost plugin first.
-/

namespace Orchestrator

/-- Why a command cannot be resolved or run. -/
inductive DispatchError where
  /-- Nothing has the name of the command. -/
  | unknownCommand (command : String)
  /-- The last name of the chain occurs in it before. -/
  | cyclicCommand (chain : List String)
  /-- A plugin selects a pattern that is not registered, which is an error here. -/
  | unregisteredPattern (plugin pattern : String)
  /-- A plugin cannot plan. -/
  | fault (plugin : String) (source : PluginFault)
  /-- The commands that a plugin wraps cannot be resolved. -/
  | within (plugin : String) (source : DispatchError)
  /-- A task was refused by the executor. -/
  | execution (source : ExecutionError)
  deriving DecidableEq, Repr

/-- The wording of an error. -/
def DispatchError.message : DispatchError → String
  | .unknownCommand command => s!"Could not find a command or plugin called '{command}'"
  | .cyclicCommand chain => "Cyclic command definition: " ++ String.intercalate " -> " chain
  | .unregisteredPattern plugin pattern =>
    s!"Pattern '{pattern}' selected by '{plugin}' is not registered"
  | .fault plugin source => "Plugin '" ++ plugin ++ "' failed: " ++ source.message
  | .within plugin source => "Plugin '" ++ plugin ++ "' failed: " ++ source.message
  | .execution source => source.message

end Orchestrator
