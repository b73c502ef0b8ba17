import Orchestrator.CommandLine.Early
import Orchestrator.CommandLine.Grammar
import Orchestrator.CommandLine.Help
import Orchestrator.LogFilter
import Orchestrator.Plugin.Listing
import Orchestrator.Settings.Discovery

/-!
# The program

The program scans its command line for the settings file, loads the settings, reads the whole
command line with the options of their patterns, and runs the requested commands.

* `ProgramError`: why the program fails once its command line is read.
* `ProgramResult`: what the program says, its exit code, and what it leaves.
* `program`: the program on a machine.
* `programOutput`: the program seen from outside, also where its tasks start it once more.
-/

namespace Orchestrator

open CommandLine

/-- Why the program fails once its command line is read. -/
inductive ProgramError where
  | load (source : LoadError)
  | run (source : RunError)
  deriving DecidableEq, Repr

namespace ProgramError

/-- The wording of an error. -/
def message : ProgramError → String
  | .load source => "Could not load the settings file: " ++ source.report
  | .run source => source.message

/-- The exit code of an error. -/
def code : ProgramError → Nat
  | .run (.execution .cancelled) => 130
  | _ => 1

/-- What the program says about an error; a cancellation is not mentioned. -/
def report : ProgramError → List Entry
  | .run (.execution .cancelled) => []
  | e => [.err ("\nError: " ++ e.message ++ "\n")]

end ProgramError

/-- What the program says, its exit code, and what it leaves. -/
structure ProgramResult where
  journal : List Entry
  code : Nat
  /-- The files that it leaves. -/
  files : FileTree

namespace ProgramResult

/-- The end of a program that was or was not successful. -/
def ofError (files : FileTree) (journal : List Entry) : Option ProgramError → ProgramResult
  | none => ⟨journal, 0, files⟩
  | some e => ⟨journal ++ e.report, e.code, files⟩

end ProgramResult

/-- The wording of a refusal of the command line. -/
def CommandLine.UsageError.message : UsageError → String
  | .unknownOption option => s!"unexpected argument '{option}' found"
  | .missingValue option => s!"a value is required: {optionHelp option}"
  | .unexpectedValue option => s!"no value is expected: {optionHelp option}"
  | .repeated option => s!"given more than once: {optionHelp option}"
  | .invalidJobs source => "invalid number of jobs: " ++ source.message
  | .invalidLogLevel value => s!"invalid log level '{value}'"

/-- What the program says instead of running, and its exit code. -/
def CommandLine.Stop.result (table : OptionTable) (settings : Option SettingsTree)
    (files : FileTree) : Stop → ProgramResult
  | .help => ⟨[.out (helpPage table settings)], 0, files⟩
  | .version => ⟨[.out "exec-helper 0.4.0\n"], 0, files⟩
  | .usage e => ⟨[.err ("error: " ++ e.message ++ "\n")], 2, files⟩

/-- Runs the requested commands of loaded settings. -/
def runLoaded (own : Machine.OwnProgram) (m : Machine) (loaded : LoadedSettings)
    (i : Invocation) : ProgramResult :=
  let options := i.options m.processors
  let (patterns, refused) := PatternRegistry.override i.overrides loaded.patterns
  let overrides := i.overrides.map fun o =>
    match refused.lookup o.key with
    | some e => Entry.log (.overrideIgnored o.key e)
    | none => Entry.log (.overridden o.key)
  let prelude := overrides ++ .log (.parsed options) :: Run.replacements patterns
  let dirs : RunDirectories := ⟨loaded.rootDir, m.workingDir.path⟩
  let cfg : Configuration :=
    { options, settings := loaded.settings
      patterns := Run.withDirectoryPatterns patterns dirs, plugins := .standard }
  if options.dryRun then
    let p := Run.execute cfg dirs Executor.reporting 0
    let closing := match p.error with
      | none => [Entry.out (toString p.state ++ " task(s) would run\n")]
      | some _ => []
    .ofError m.files (prelude ++ p.journal ++ closing) (p.error.map .run)
  else
    let x := Executor.immediate (Machine.launcher own) options.keepGoing
    let p := Run.execute cfg dirs x (.initial m)
    .ofError p.state.world.files (prelude ++ p.journal) (p.error.map .run)

/-- The program on a machine, with its arguments.  How it runs as a process of its own tasks is a
parameter. -/
def program (own : Machine.OwnProgram) (m : Machine) (args : List String) : ProgramResult :=
  let early := EarlyOptions.scan args
  let start := Entry.log (.scanned early)
  if early.listPlugins then
    ⟨[start, .out PluginRegistry.standard.listing], 0, m.files⟩
  else
    let loading := m.loadSettings early.settingsFile
    let (patterns, settings) := match loading.result with
      | .ok l => (l.patterns, some l.settings)
      | .error _ => (.empty, none)
    let table := OptionTable.ofPatterns patterns
    let result := match table.read args, loading.result with
      | .error stop, _ => stop.result table settings m.files
      | .ok _, .error e => .ofError m.files [] (some (.load e))
      | .ok i, .ok l => runLoaded own m l i
    let setup := start :: loading.journal ++ (OptionTable.refusals patterns).map .log
    { result with journal := setup ++ result.journal }

/-- The filter of the log on a machine, and what is wrong with its specification. -/
def logFilter (m : Machine) (args : List String) : LogFilter × List Entry :=
  let level := (EarlyOptions.scan args).logLevel
  match m.environment.valueOf? "RUST_LOG" with
  | none => (.ofLevel level, [])
  | some specification =>
    let (filter, errors) := LogFilter.ofSpecification level specification
    (filter, errors.map fun e => .err ("warning: " ++ e ++ ", ignoring it\n"))

/-- What the program writes to its two output streams, its exit code, and the files that it
leaves. -/
structure ProgramOutput where
  output : String
  errors : String
  code : Nat
  files : FileTree

/-- The program as a process on a machine, given what comes of it on any machine. -/
def asProcess (run : Machine → List String → ProgramOutput) : Machine.OwnProgram := fun m p =>
  let within : Machine :=
    { m with files := p.files, environment := p.environment.ofRows, workingDir := p.workingDir
             interrupted := false }
  let o := run within (p.args.map Text.ofRow)
  ⟨[.out (Text.toRow o.output), .err (Text.toRow o.errors)], .exited o.code, o.files,
    p.interrupted⟩

/-- The program on a machine, seen from outside.  It starts itself only to a certain depth. -/
def outputAtDepth : Nat → Machine → List String → ProgramOutput
  | 0, m, _ => ⟨"", "", 126, m.files⟩
  | depth + 1, m, args =>
    let (filter, complaints) := logFilter m args
    let result := program (asProcess (outputAtDepth depth)) m args
    { output := Entry.output result.journal
      errors := Entry.errorLines filter (complaints ++ result.journal)
      code := result.code, files := result.files }

/-- How deep the program starts itself. -/
def programDepth : Nat := 8

/-- The program on a machine, seen from outside. -/
def programOutput (m : Machine) (args : List String) : ProgramOutput :=
  outputAtDepth programDepth m args

end Orchestrator
