import Orchestrator.CommandLine.Option
import Orchestrator.Options

/-!
# What a command line asks for

An invocation gathers what the arguments gave so far.  An option that is no pattern is given at most
once; the values of a pattern add up.

* `Invocation.set`, `Invocation.assign`, `Invocation.addValues`, `Invocation.addCommand`: an
  invocation with one more option or command, or the reason why the command line is refused.
* `Invocation.overrides`, `Invocation.options`: what the run takes from it.
-/

namespace Orchestrator
namespace CommandLine

/-- Why a command line is refused. -/
inductive UsageError where
  /-- There is no such option. -/
  | unknownOption (option : String)
  /-- An option that takes values has none. -/
  | missingValue (option : OptionKind)
  /-- An option that takes no value has one. -/
  | unexpectedValue (option : OptionKind)
  /-- An option is there twice. -/
  | repeated (option : OptionKind)
  | invalidJobs (source : JobsError)
  | invalidLogLevel (value : String)
  deriving DecidableEq, Repr

/-- What the arguments gave. -/
structure Invocation where
  switches : List Switch
  jobs : Option JobCount
  settingsFile : Option String
  logLevel : Option LogLevel
  /-- The values of each pattern that was given. -/
  patternValues : KeyedMap (List String)
  commands : List String
  deriving DecidableEq, Repr

namespace Invocation

/-- The invocation of an empty command line. -/
def empty : Invocation := ⟨[], none, none, none, .empty, []⟩

/-- The invocation with a switch. -/
def set (i : Invocation) (s : Switch) : Except UsageError Invocation :=
  if s ∈ i.switches then .error (.repeated (.switch s))
  else .ok { i with switches := i.switches ++ [s] }

/-- Whether a setting has a value already. -/
def isAssigned (i : Invocation) : Setting → Bool
  | .jobs => i.jobs.isSome
  | .settingsFile => i.settingsFile.isSome
  | .logLevel => i.logLevel.isSome

/-- The level of a name as it is written on the command line. -/
def levelNamed? (value : String) : Option LogLevel :=
  LogLevel.all.find? fun l => l.name = value

/-- The invocation with the value of a setting. -/
def assign (i : Invocation) (s : Setting) (value : String) : Except UsageError Invocation :=
  if i.isAssigned s then .error (.repeated (.setting s))
  else
    match s with
    | .settingsFile => .ok { i with settingsFile := some value }
    | .jobs =>
      match JobCount.read value with
      | .ok n => .ok { i with jobs := some n }
      | .error e => .error (.invalidJobs e)
    | .logLevel =>
      match levelNamed? value with
      | some l => .ok { i with logLevel := some l }
      | none => .error (.invalidLogLevel value)

/-- The invocation with more values of a pattern. -/
def addValues (i : Invocation) (key : String) (values : List String) : Invocation :=
  { i with patternValues :=
      i.patternValues.insert key ((i.patternValues.get? key).getD [] ++ values) }

/-- The invocation with one more command. -/
def addCommand (i : Invocation) (command : String) : Invocation :=
  { i with commands := i.commands ++ [command] }

/-- The values that replace those of patterns, in the order of the keys. -/
def overrides (i : Invocation) : List PatternOverride :=
  i.patternValues.entries.map fun e => ⟨e.1, e.2⟩

/-- The options of the run on a machine. -/
def options (i : Invocation) (processors : Option ProcessorCount) : RunOptions where
  verbose := i.switches.contains .verbose
  dryRun := i.switches.contains .dryRun
  keepGoing := i.switches.contains .keepGoing
  jobs := (i.jobs.getD .auto).number processors
  logLevel := i.logLevel.getD .standard
  listPlugins := i.switches.contains .listPlugins
  strictPatterns := i.switches.contains .strictPatterns
  commands := i.commands

end Invocation
end CommandLine
end Orchestrator
