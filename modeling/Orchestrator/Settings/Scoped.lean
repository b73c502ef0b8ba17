import Orchestrator.Settings.Basic

/-!
# Which setting wins

The configuration of a plugin comes from three places.  Its defaults are overlaid by the section
of its name, and this by the section of the command for which it runs, inside the section of its
name.

* `lookupScoped`: the first of several sections that has a key.
* `mergeScoped`: the overlay.
-/

namespace Orchestrator
namespace SettingsTree

/-- The node of a key in the first section, of a list of paths, that has it. -/
def lookupScoped (settings : SettingsTree) (sections : List (List String)) (key : String) :
    Option SettingsTree :=
  sections.findSome? fun path => (settings.childAt? path).bind fun scope => scope.child? key

/-- Lays the node at a path over a tree, if there is one. -/
def overwriteWith (t settings : SettingsTree) (path : List String) : SettingsTree :=
  match settings.childAt? path with
  | some scope => t.overwrite scope
  | none => t

/-- The defaults of a plugin under its section and under its section for one command. -/
def mergeScoped (defaults settings : SettingsTree) (plugin command : String) : SettingsTree :=
  (defaults.overwriteWith settings [plugin]).overwriteWith settings [plugin, command]

end SettingsTree
end Orchestrator
