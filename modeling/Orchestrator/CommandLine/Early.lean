import Orchestrator.Options

/-!
# The early scan of a command line

The options of patterns are not known before the settings file is read, so that the settings file
and the log level are looked for first, by a scan that passes over everything else.  A letter counts
only at the front of an argument.  The scan refuses nothing: a log level that does not exist is
passed over.

* `Spelling.of`: how an argument gives an option of one letter and one name.
* `EarlyOptions.scan`: what the scan finds.
-/

namespace Orchestrator
namespace CommandLine

/-- What the early scan finds. -/
structure EarlyOptions where
  settingsFile : Option String
  logLevel : LogLevel
  listPlugins : Bool
  deriving DecidableEq, Repr

/-- How an argument gives an option. -/
inductive Spelling where
  /-- It gives another option, or none. -/
  | other
  /-- It holds the value. -/
  | attached (value : String)
  /-- The value is the next argument. -/
  | detached
  deriving DecidableEq, Repr

namespace Spelling

/-- The value behind a long name. -/
def afterLong : List Char → Spelling
  | [] => .detached
  | '=' :: value => .attached (String.ofList value)
  | _ => .other

/-- The value behind a letter. -/
def afterShort : List Char → Spelling
  | [] => .detached
  | '=' :: value => .attached (String.ofList value)
  | value => .attached (String.ofList value)

/-- How an argument gives the option with a letter and a name. -/
def of (short : Char) (long arg : String) : Spelling :=
  match arg.toList with
  | '-' :: '-' :: rest =>
    if long.toList <+: rest then afterLong (rest.drop long.toList.length) else .other
  | '-' :: c :: rest => if c = short then afterShort rest else .other
  | _ => .other

end Spelling

namespace EarlyOptions

/-- Nothing found. -/
def empty : EarlyOptions := ⟨none, .standard, false⟩

/-- With the name of a settings file. -/
def withSettingsFile (e : EarlyOptions) (file : String) : EarlyOptions :=
  { e with settingsFile := some file }

/-- With a log level, if there is one of that name. -/
def withLogLevel (e : EarlyOptions) (name : String) : EarlyOptions :=
  match LogLevel.ofName? name with
  | some level => { e with logLevel := level }
  | none => e

/-- Scans arguments in order, up to two dashes alone. -/
def scanFrom : List String → EarlyOptions → EarlyOptions
  | [], e => e
  | arg :: args, e =>
    if arg = "--" then e
    else if arg = "--list-plugins" then scanFrom args { e with listPlugins := true }
    else
      match Spelling.of 's' "settings-file" arg, Spelling.of 'd' "log-level" arg, args with
      | .attached file, _, args => scanFrom args (e.withSettingsFile file)
      | .detached, _, file :: args => scanFrom args (e.withSettingsFile file)
      | .detached, _, [] => e
      | .other, .attached level, args => scanFrom args (e.withLogLevel level)
      | .other, .detached, level :: args => scanFrom args (e.withLogLevel level)
      | .other, .detached, [] => e
      | .other, .other, args => scanFrom args e

/-- What is found in a list of arguments, which does not hold the name of the program. -/
def scan (args : List String) : EarlyOptions :=
  scanFrom args .empty

end EarlyOptions
end CommandLine
end Orchestrator
