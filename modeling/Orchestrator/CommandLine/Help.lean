import Orchestrator.CommandLine.Option
import Orchestrator.Run
import Orchestrator.Text.Blank
import Orchestrator.Text.Columns

/-!
# The help page

* `commandsHelp`: the commands that the settings offer.
* `helpPage`: the whole page, on which the commands come last.
-/

namespace Orchestrator
namespace CommandLine

/-- The list of the commands that the settings offer, in two columns. -/
def commandColumns (settings : SettingsTree) : String :=
  let commands := configuredCommands settings
  let width := Text.columnWidth (commands.map Prod.fst)
  let lines := commands.map fun c => "\n" ++ Text.columnLine width c.1 (c.2.getD "")
  "Configured commands:" ++ if lines.isEmpty then "\n  (none)" else String.join lines

/-- The list of the commands that the settings offer, as it is shown. -/
def commandsHelp (settings : SettingsTree) : String :=
  Text.withoutSequences (commandColumns settings)

/-- What the help page says about an option. -/
def optionHelp : OptionKind → String
  | .switch .verbose => "Turn on the verbose flags of the tools that are run"
  | .switch .dryRun => "Print the tasks instead of running them"
  | .switch .keepGoing => "Keep running tasks after one of them failed"
  | .switch .listPlugins => "List the available plugins and exit"
  | .switch .strictPatterns => "Fail when a plugin selects a pattern that is not registered"
  | .setting .jobs => "Number of jobs passed to the tools: a positive number or 'auto'"
  | .setting .settingsFile => "Use this settings file instead of searching for '.exec-helper'"
  | .setting .logLevel => "How much exec-helper itself logs"
  | .pattern key => s!"Values for the {key} pattern"
  | .help => "Print help"
  | .version => "Print version"

/-- The names of an option. -/
def optionNames (o : CommandOption) : String :=
  let names := (o.short.toList.map fun c => "-" ++ String.singleton c) ++
    (o.long.toList.map fun l => "--" ++ l)
  String.intercalate ", " names

/-- The list of the options. -/
def optionsHelp (table : OptionTable) : String :=
  let width := Text.columnWidth (table.options.map optionNames)
  "Options:" ++
    String.join (table.options.map fun o =>
      "\n" ++ Text.columnLine width (optionNames o) (optionHelp o.kind))

/-- A text in which each `n` between braces starts a new line. -/
def breakLines : List Char → List Char
  | '{' :: 'n' :: '}' :: cs => '\n' :: breakLines cs
  | c :: cs => c :: breakLines cs
  | [] => []

/-- The help page.  Its lines are laid out and the blank characters at its end are removed first;
terminal sequences are left out when the page is written. -/
def helpPage (table : OptionTable) (settings : Option SettingsTree) : String :=
  let commands := match settings with
    | some settings => "\n\n" ++ String.ofList (breakLines (commandColumns settings).toList)
    | none => ""
  let page := "Usage: exec-helper [OPTIONS] [COMMANDS]...\n\n" ++ optionsHelp table ++ commands
  Text.writtenWithoutSequences
    (String.ofList (page.toList.reverse.dropWhile Text.isBlank).reverse ++ "\n")

end CommandLine
end Orchestrator
