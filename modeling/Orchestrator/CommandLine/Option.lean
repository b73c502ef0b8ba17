import Orchestrator.Journal
import Orchestrator.Pattern.Registry
import Orchestrator.Text.Terminal

/-!
# The options of the command line

Besides the options that are always there, each pattern that asks for a short or a long option gets
an option of its own.  The options that are always there go first: a pattern does not get a name
that one of them has.  Two patterns that ask for one name both get it, and the name then means the
pattern whose key comes first.

* `OptionKind`: what an option is for, and through it how many values it takes.
* `CommandOption`: an option with its names.
* `CommandOption.ofPattern?`, `CommandOption.refusals`: the option of a pattern, and the names that
  it does not get.
* `OptionTable`: all options, with `findShort?` and `findLong?`.
-/

namespace Orchestrator
namespace CommandLine

/-- An option that is given or not. -/
inductive Switch where
  | verbose
  | dryRun
  | keepGoing
  | listPlugins
  | strictPatterns
  deriving DecidableEq, Repr

/-- An option with one value. -/
inductive Setting where
  | jobs
  | settingsFile
  | logLevel
  deriving DecidableEq, Repr

/-- What an option is for. -/
inductive OptionKind where
  /-- Takes no value. -/
  | switch (switch : Switch)
  /-- Takes one value. -/
  | setting (setting : Setting)
  /-- Takes the values of a pattern, at least one. -/
  | pattern (key : String)
  /-- Asks for the help page. -/
  | help
  /-- Asks for the version. -/
  | version
  deriving DecidableEq, Repr

/-- Whether an option takes values. -/
def OptionKind.takesValues : OptionKind → Bool
  | .setting _ => true
  | .pattern _ => true
  | _ => false

/-- An option and the names by which it is given. -/
structure CommandOption where
  kind : OptionKind
  short : Option Char
  long : Option String
  deriving DecidableEq, Repr

namespace CommandOption

/-- The options that come before those of the patterns. -/
def standard : List CommandOption :=
  [⟨.switch .verbose, some 'v', some "verbose"⟩,
   ⟨.switch .dryRun, some 'n', some "dry-run"⟩,
   ⟨.switch .keepGoing, some 'k', some "keep-going"⟩,
   ⟨.setting .jobs, some 'j', some "jobs"⟩,
   ⟨.setting .settingsFile, some 's', some "settings-file"⟩,
   ⟨.setting .logLevel, some 'd', some "log-level"⟩,
   ⟨.switch .listPlugins, none, some "list-plugins"⟩,
   ⟨.switch .strictPatterns, none, some "strict-patterns"⟩]

/-- The options that come after those of the patterns. -/
def closing : List CommandOption :=
  [⟨.help, some 'h', some "help"⟩,
   ⟨.version, some 'V', some "version"⟩]

/-- The short options that no pattern gets. -/
def takenShorts : List Char :=
  (standard ++ closing).filterMap short

/-- The long options that no pattern gets. -/
def takenLongs : List String :=
  (standard ++ closing).filterMap long

/-- The short option that a pattern gets. -/
def grantedShort (p : Pattern) : Option Char :=
  p.shortOption.filter fun c => c ∉ takenShorts

/-- The long option that a pattern gets. -/
def grantedLong (p : Pattern) : Option String :=
  p.longOption.filter fun l => l ∉ takenLongs

/-- The option of a pattern, if it gets a name. -/
def ofPattern? (p : Pattern) : Option CommandOption :=
  match grantedShort p, grantedLong p with
  | none, none => none
  | short, long => some ⟨.pattern p.key, short, long⟩

/-- What is said about the names that a pattern does not get. -/
def refusals (p : Pattern) : List Message :=
  ((p.shortOption.filter fun c => c ∈ takenShorts).toList.map fun c => .shortOptionTaken c p.key) ++
    ((p.longOption.filter fun l => l ∈ takenLongs).toList.map fun l => .longOptionTaken l p.key)

/-- What the help page says about the option of a pattern. -/
def patternHelp (p : Pattern) : String :=
  Text.withoutSequences
    ("Values for the " ++ p.key ++ " pattern [default: " ++ String.intercalate ", " p.values ++ "]")

end CommandOption

/-- The options that can be given. -/
structure OptionTable where
  options : List CommandOption
  deriving DecidableEq, Repr

namespace OptionTable

/-- The options when certain patterns are registered. -/
def ofPatterns (patterns : PatternRegistry) : OptionTable :=
  ⟨CommandOption.standard ++ patterns.toList.filterMap CommandOption.ofPattern? ++
    CommandOption.closing⟩

/-- What is said about the names that patterns do not get. -/
def refusals (patterns : PatternRegistry) : List Message :=
  patterns.toList.flatMap CommandOption.refusals

/-- The option that a letter means. -/
def findShort? (table : OptionTable) (c : Char) : Option CommandOption :=
  table.options.find? fun o => o.short = some c

/-- The option that a name means. -/
def findLong? (table : OptionTable) (name : String) : Option CommandOption :=
  table.options.find? fun o => o.long = some name

end OptionTable
end CommandLine
end Orchestrator
