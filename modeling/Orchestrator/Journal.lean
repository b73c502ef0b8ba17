import Orchestrator.CommandLine.Early
import Orchestrator.Plugin.Basic

/-!
# The journal of a run

Whatever a run says, it says in one journal, in order: log messages, the applications of plugins,
and the text that goes to the two output streams.

* `Message`, with its `level` and `text`: the log messages.
* `Entry`: what a journal holds; `Entry.warnings`, `Entry.output` and the others read a journal.
* `Outcome`: a result or an error, with the journal of how it came about.
* `Progress`: a state that is kept also when an error ends the work on it.
-/

namespace Orchestrator

/-- A log message. -/
inductive Message where
  /-- An inline pattern has no valid definition. -/
  | patternIgnored (key : String) (error : PatternError)
  /-- The values that the command line gives to a pattern are refused. -/
  | overrideIgnored (key : String) (error : PatternError)
  /-- A plugin selects a pattern that is not registered. -/
  | patternUnregistered (pattern plugin : String)
  /-- A pattern wants a short option that is taken. -/
  | shortOptionTaken (option : Char) (key : String)
  /-- A pattern wants a long option that is taken. -/
  | longOptionTaken (option key : String)
  /-- A task failed and the run goes on. -/
  | continuing (command : String) (code : Int)
  /-- A requested command is taken up. -/
  | executing (command : String)
  /-- A requested command is done. -/
  | succeeded (command : String)
  /-- A process failed and the commands behind its own are not taken up. -/
  | stopping (command : String)
  /-- A command of the settings is replaced by its values. -/
  | resolving (command : String) (subCommands : List String)
  /-- A section of the settings counts for a plugin. -/
  | merging (path : List String) (plugin : String)
  /-- A plugin takes the values of its patterns for commands. -/
  | selecting (command : String) (selected : List String)
  /-- A plugin is done with its tasks. -/
  | produced (plugin : String) (count : Nat)
  /-- A program is not there. -/
  | programMissing (program : String)
  /-- What the first look at the command line found. -/
  | scanned (options : CommandLine.EarlyOptions)
  /-- A settings file was found where none was named. -/
  | settingsFound (path : String)
  /-- A settings file was read. -/
  | settingsLoaded (settings patterns : Nat) (path : String)
  /-- The command line gives values to a pattern. -/
  | overridden (key : String)
  /-- A pattern takes the place of another one. -/
  | patternReplaced (key : String)
  /-- What the command line asks for. -/
  | parsed (options : RunOptions)
  deriving DecidableEq, Repr

namespace Message

/-- How important a message is. -/
def level : Message → LogLevel
  | .patternIgnored .. | .overrideIgnored .. | .patternUnregistered .. => .warning
  | .shortOptionTaken .. | .longOptionTaken .. | .continuing .. => .warning
  | .executing _ => .info
  | .merging .. => .trace
  | _ => .debug

/-- A name with the values of its fields. -/
def fields (name : String) (values : List (String × String)) : String :=
  name ++ " \x7b " ++ String.intercalate ", " (values.map fun v => v.1 ++ ": " ++ v.2) ++ " \x7d"

/-- The name of a level in a message. -/
def levelName : LogLevel → String
  | .none => "None"
  | .error => "Error"
  | .warning => "Warning"
  | .info => "Info"
  | .debug => "Debug"
  | .trace => "Trace"

/-- What the first look at the command line found, in one line. -/
def scannedText (o : CommandLine.EarlyOptions) : String :=
  fields "EarlyOptions"
    [("settings_file", match o.settingsFile with
        | some file => "Some(" ++ Text.quote file ++ ")"
        | none => "None"),
     ("log_level", levelName o.logLevel), ("list_plugins", toString o.listPlugins)]

/-- What the command line asks for, in one line. -/
def parsedText (o : RunOptions) : String :=
  fields "FleetingOptions"
    [("verbose", toString o.verbose), ("dry_run", toString o.dryRun),
     ("keep_going", toString o.keepGoing), ("jobs", toString o.jobs),
     ("log_level", levelName o.logLevel), ("list_plugins", toString o.listPlugins),
     ("strict_patterns", toString o.strictPatterns), ("commands", Text.quoteList o.commands)]

/-- The wording of a message. -/
def text : Message → String
  | .patternIgnored key error => "Ignoring pattern '" ++ key ++ "': " ++ error.message
  | .overrideIgnored key error =>
    "Ignoring command line values of pattern '" ++ key ++ "': " ++ error.message
  | .patternUnregistered pattern plugin =>
    s!"Pattern '{pattern}' used by '{plugin}' is not registered; ignoring it"
  | .shortOptionTaken option key =>
    s!"Short option '-{option}' of pattern '{key}' is already taken; ignoring it"
  | .longOptionTaken option key =>
    s!"Long option '--{option}' of pattern '{key}' is already taken; ignoring it"
  | .continuing command code => s!"'{command}' failed with exit code {code}; continuing"
  | .executing command => s!"Executing command '{command}'"
  | .resolving command subCommands =>
    "Resolving '" ++ command ++ "' as " ++ Text.quoteList subCommands
  | .succeeded command => s!"Command '{command}' succeeded"
  | .stopping command => s!"Stopping after the failed process of '{command}'"
  | .merging path plugin => "Merging settings of '" ++ displayPath path ++ s!"' into '{plugin}'"
  | .selecting command selected =>
    s!"Selector for '{command}' runs " ++ Text.quoteList selected
  | .produced plugin count => s!"Plugin '{plugin}' produced {count} task(s)"
  | .programMissing program => s!"Program '{program}' was not found in PATH"
  | .scanned options => "Early options: " ++ scannedText options
  | .settingsFound path => s!"Found settings file at '{path}'"
  | .settingsLoaded settings patterns path =>
    s!"Loaded {settings} top-level setting(s) and {patterns} pattern(s) from '{path}'"
  | .overridden key => s!"Pattern '{key}' overridden from the command line"
  | .patternReplaced key => s!"Pattern '{key}' was registered again; the last definition wins"
  | .parsed options => "Fleeting options: " ++ parsedText options

end Message

/-- A plugin and what it was given to plan with. -/
structure Application where
  plugin : Plugin
  request : Request

/-- The wording of an application in the log. -/
def Application.text (a : Application) : String :=
  "Applying '" ++ a.plugin.name ++ "' for '" ++ a.request.command ++ "' with patterns " ++
    Text.quoteList (a.request.patterns.map Pattern.key)

/-- What a journal holds. -/
inductive Entry where
  /-- A log message. -/
  | log (message : Message)
  /-- A plugin was applied. -/
  | applied (application : Application)
  /-- Text for the standard output. -/
  | out (text : String)
  /-- Text for the standard error stream. -/
  | err (text : String)

namespace Entry

/-- The message of an entry, if it is at least a warning. -/
def warning? : Entry → Option String
  | .log m => if m.level.rank ≤ LogLevel.warning.rank then some m.text else none
  | _ => none

/-- The text of an entry for the standard output. -/
def out? : Entry → Option String
  | .out t => some t
  | _ => none

/-- The text of an entry for the standard error stream. -/
def err? : Entry → Option String
  | .err t => some t
  | _ => none

/-- The application of a plugin whose applications are of interest. -/
def record? : Entry → Option Application
  | .applied a => if a.plugin.isMemory then some a else none
  | _ => none

/-- The warnings of a journal. -/
def warnings (journal : List Entry) : List String :=
  journal.filterMap warning?

/-- The text of a journal for the standard output. -/
def output (journal : List Entry) : String :=
  String.join (journal.filterMap out?)

/-- The text of a journal for the standard error stream, log lines left out. -/
def errorOutput (journal : List Entry) : String :=
  String.join (journal.filterMap err?)

/-- The applications of a journal that are of interest. -/
def records (journal : List Entry) : List Application :=
  journal.filterMap record?

end Entry

/-- A result or an error, and the journal of how it came about. -/
structure Outcome (ε α : Type) where
  journal : List Entry
  result : Except ε α

namespace Outcome

variable {ε ε' α β : Type}

/-- A result with nothing to say. -/
def ok (a : α) : Outcome ε α := ⟨[], .ok a⟩

/-- An error with nothing to say. -/
def error (e : ε) : Outcome ε α := ⟨[], .error e⟩

/-- The outcome with a function applied to its result. -/
def map (f : α → β) (o : Outcome ε α) : Outcome ε β :=
  ⟨o.journal, o.result.map f⟩

/-- The outcome with a function applied to its error. -/
def mapError (f : ε → ε') (o : Outcome ε α) : Outcome ε' α :=
  ⟨o.journal, o.result.mapError f⟩

/-- Goes on with the result, if there is one. -/
def andThen (o : Outcome ε α) (next : α → Outcome ε β) : Outcome ε β :=
  match o.result with
  | .error e => ⟨o.journal, .error e⟩
  | .ok a => ⟨o.journal ++ (next a).journal, (next a).result⟩

/-- Puts an entry before the others. -/
def noting (entry : Entry) (o : Outcome ε α) : Outcome ε α :=
  ⟨entry :: o.journal, o.result⟩

/-- Puts a journal before the entries. -/
def after (journal : List Entry) (o : Outcome ε α) : Outcome ε α :=
  ⟨journal ++ o.journal, o.result⟩

end Outcome

/-- A state, the journal of the work on it, and the error that ended the work, if any. -/
structure Progress (ε σ : Type) where
  journal : List Entry
  state : σ
  error : Option ε

namespace Progress

variable {ε ε' σ τ : Type}

/-- A state on which there is nothing to do. -/
def done (s : σ) : Progress ε σ := ⟨[], s, none⟩

/-- A state on which no work is possible. -/
def failed (s : σ) (e : ε) : Progress ε σ := ⟨[], s, some e⟩

/-- The progress with a function applied to its error. -/
def mapError (f : ε → ε') (p : Progress ε σ) : Progress ε' σ :=
  ⟨p.journal, p.state, p.error.map f⟩

/-- Goes on with the state, unless an error ended the work. -/
def andThen (p : Progress ε σ) (next : σ → Progress ε σ) : Progress ε σ :=
  match p.error with
  | some _ => p
  | none => ⟨p.journal ++ (next p.state).journal, (next p.state).state, (next p.state).error⟩

/-- Puts an entry before the others. -/
def noting (entry : Entry) (p : Progress ε σ) : Progress ε σ :=
  ⟨entry :: p.journal, p.state, p.error⟩

/-- Puts a journal before the entries. -/
def after (journal : List Entry) (p : Progress ε σ) : Progress ε σ :=
  ⟨journal ++ p.journal, p.state, p.error⟩

/-- The state as a result, given up when there was an error. -/
def toOutcome (p : Progress ε σ) : Outcome ε σ :=
  ⟨p.journal, match p.error with
    | some e => .error e
    | none => .ok p.state⟩

end Progress
end Orchestrator
