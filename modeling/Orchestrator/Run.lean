import Orchestrator.Resolution.Basic

/-!
# A run

A run takes the requested commands one after the other.  A command that fails is reported and does
not stop the others, except that a failed process stops the run unless it is to keep going, and a
cancellation ends it at once.

* `configuredCommands`: the commands that the settings offer, with their descriptions.
* `Run.validate`: whether every requested command is offered.
* `Run.withDirectoryPatterns`: the patterns that hold the directories of the run.
* `Run.execute`: the run.
-/

namespace Orchestrator

/-- The commands that the settings offer, in order, each with its description if it has one. -/
def configuredCommands (settings : SettingsTree) : List (String × Option String) :=
  match settings.child? Names.commands with
  | none => []
  | some scope =>
    scope.children.map fun entry => (entry.key, entry.values?.map (String.intercalate " "))

/-- The directories to which a run is anchored. -/
structure RunDirectories where
  /-- The directory of the settings file, in which tasks start. -/
  root : Path
  /-- The directory from which the program was started. -/
  working : Path
  deriving DecidableEq, Repr

/-- Why a run fails. -/
inductive RunError where
  | noCommands
  | undefinedCommand (command : String)
  | commandsFailed (failed total : Nat)
  | execution (source : ExecutionError)
  deriving DecidableEq, Repr

/-- The wording of a failure. -/
def RunError.message : RunError → String
  | .noCommands => "You must define at least one command"
  | .undefinedCommand command =>
    s!"'{command}' is an undefined command; add it to the 'commands' section of the settings file"
  | .commandsFailed failed total => s!"{failed} of {total} command(s) failed"
  | .execution source => source.message

namespace Run

/-- A pattern with one value and no options. -/
def fixedPattern (key value : String) : Pattern :=
  ⟨key, [value], none, none, List.cons_ne_nil _ _⟩

/-- The registry with the patterns that hold the directories of the run, as texts. -/
def withDirectoryPatterns (patterns : PatternRegistry) (dirs : RunDirectories) : PatternRegistry :=
  (patterns.add (fixedPattern Names.workingDirPattern dirs.working.text)).add
    (fixedPattern Names.rootDirPattern dirs.root.text)

/-- What is said about patterns whose place those of the directories take. -/
def replacements (patterns : PatternRegistry) : List Entry :=
  ([Names.workingDirPattern, Names.rootDirPattern].filter patterns.contains).map fun key =>
    .log (.patternReplaced key)

/-- Whether there is a requested command and each one is offered. -/
def validate (cfg : Configuration) : Except RunError Unit :=
  if cfg.options.commands.isEmpty then .error .noCommands
  else
    let offered := cfg.settings.getD [Names.commands] []
    match cfg.options.commands.find? fun c => c ∉ offered with
    | some c => .error (.undefinedCommand c)
    | none => .ok ()

/-- The task on which all others build: it does nothing yet, in the root directory. -/
def baseTask (dirs : RunDirectories) : Task :=
  Task.empty.setWorkingDir dirs.root

/-- The line that reports a failed command. -/
def report (command : String) (e : DispatchError) : String :=
  "Error in " ++ command ++ ": " ++ e.message ++ "\n"

/-- How taking up the requested commands ended. -/
structure Attempted (σ : Type) where
  journal : List Entry
  state : σ
  /-- How many commands failed. -/
  failed : Nat
  /-- Whether the user stopped the run. -/
  cancelled : Bool

/-- What a failed command means for those after it. -/
inductive Verdict where
  | cancel
  | stop
  | goOn
  deriving DecidableEq, Repr

/-- What a failure means for the commands that come after. -/
def verdict (keepGoing : Bool) : DispatchError → Verdict
  | .execution .cancelled => .cancel
  | .execution _ => if keepGoing then .goOn else .stop
  | _ => .goOn

/-- Takes up commands in order, until one ends the run. -/
def attempt (cfg : Configuration) {σ : Type} (x : Executor σ) (base : Task) :
    List String → σ → Attempted σ
  | [], s => ⟨[], s, 0, false⟩
  | command :: commands, s =>
    let p := (executeCommand cfg x Frame.root base command s).noting (.log (.executing command))
    match p.error with
    | none =>
      let rest := attempt cfg x base commands p.state
      { rest with journal := p.journal ++ .log (.succeeded command) :: rest.journal }
    | some e =>
      let told := p.journal ++ [.err (report command e)]
      match verdict cfg.options.keepGoing e with
      | .cancel => ⟨p.journal, p.state, 0, true⟩
      | .stop => ⟨told ++ [.log (.stopping command)], p.state, 1, false⟩
      | .goOn =>
        let rest := attempt cfg x base commands p.state
        { rest with journal := told ++ rest.journal, failed := rest.failed + 1 }

/-- How a run ends after its commands: a failure that was put off comes before the count of failed
commands. -/
def conclude (total failed : Nat) {σ : Type} (p : Progress ExecutionError σ) :
    Progress RunError σ :=
  match p.error with
  | some e => ⟨p.journal, p.state, some (.execution e)⟩
  | none =>
    ⟨p.journal, p.state, if 0 < failed then some (.commandsFailed failed total) else none⟩

/-- Runs the requested commands. -/
def execute (cfg : Configuration) (dirs : RunDirectories) {σ : Type} (x : Executor σ) (s : σ) :
    Progress RunError σ :=
  match validate cfg with
  | .error e => .failed s e
  | .ok () =>
    let a := attempt cfg x (baseTask dirs) cfg.options.commands s
    if a.cancelled then ⟨a.journal, a.state, some (.execution .cancelled)⟩
    else
      (conclude cfg.options.commands.length a.failed (x.finish a.state)).after a.journal

end Run
end Orchestrator
