import Orchestrator.Plugin.Basic
import Orchestrator.Text.Columns

/-!
# The list of plugins

* `PluginRegistry.listing`: every plugin with its summary, in the order of the names.
-/

namespace Orchestrator
namespace PluginRegistry

/-- The lines that list the plugins. -/
def listing (r : PluginRegistry) : String :=
  let width := Text.columnWidth (r.toList.map Plugin.name)
  "Available plugins:\n" ++
    String.join (r.toList.map fun p => Text.columnLine width p.name p.summary ++ "\n")

end PluginRegistry
end Orchestrator
