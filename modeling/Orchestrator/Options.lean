import Orchestrator.Text.Case
import Orchestrator.Text.Numeral

/-!
# Options of a run

* `LogLevel`: how much is logged, and its names on the command line and in the environment.
* `autoJobs`, `readJobs`: the automatic number of jobs, and the value of the option `--jobs`.
* `RunOptions`: what one invocation asks for.
-/

namespace Orchestrator

/-- How much is logged. -/
inductive LogLevel where
  | none
  | error
  | warning
  | info
  | debug
  | trace
  deriving DecidableEq, Inhabited, Repr

namespace LogLevel

/-- The levels, from the quietest on. -/
def all : List LogLevel := [.none, .error, .warning, .info, .debug, .trace]

/-- How much a level lets through. -/
def rank : LogLevel → Nat
  | .none => 0
  | .error => 1
  | .warning => 2
  | .info => 3
  | .debug => 4
  | .trace => 5

/-- The name of a level on the command line. -/
def name : LogLevel → String
  | .none => "none"
  | .error => "error"
  | .warning => "warning"
  | .info => "info"
  | .debug => "debug"
  | .trace => "trace"

/-- The label of a level in front of a log line. -/
def label : LogLevel → String
  | .none => "OFF"
  | .error => "ERROR"
  | .warning => "WARN"
  | .info => "INFO"
  | .debug => "DEBUG"
  | .trace => "TRACE"

/-- The level of a name, in any case. -/
def ofName? (s : String) : Option LogLevel :=
  all.find? fun l => Text.sameIgnoringCase l.name s

/-- The level that is used when none is given. -/
def standard : LogLevel := .warning

end LogLevel

/-- Why the value of `--jobs` is refused. -/
inductive JobsError where
  | zero
  | notANumber (value : String)
  deriving DecidableEq, Repr

/-- The wording of a refusal. -/
def JobsError.message : JobsError → String
  | .zero => "the number of jobs must be at least 1"
  | .notANumber value => s!"'{value}' is neither 'auto' nor a number"

/-- How many processors there are. -/
abbrev ProcessorCount := { n : Nat // 0 < n }

/-- The number of jobs for `auto`: one for each processor that the program may use.  It is a single
one when nothing tells how many there are, or when there are more than fit into thirty-two bits. -/
def autoJobs (processors : Option ProcessorCount) : Nat :=
  match processors with
  | some n => if n.1 ≤ Text.maxCount then n.1 else 1
  | none => 1

theorem one_le_autoJobs (processors : Option ProcessorCount) : 1 ≤ autoJobs processors := by
  cases processors with
  | none => exact Nat.le_refl 1
  | some n =>
    rw [autoJobs]
    split
    · exact n.2
    · exact Nat.le_refl 1

theorem autoJobs_le_maxCount (processors : Option ProcessorCount) :
    autoJobs processors ≤ Text.maxCount := by
  cases processors with
  | none => decide
  | some n =>
    rw [autoJobs]
    split
    · assumption
    · decide

/-- What the option `--jobs` asks for. -/
inductive JobCount where
  /-- As many jobs as suit the machine. -/
  | auto
  | fixed (n : Nat)
  deriving DecidableEq, Repr

namespace JobCount

/-- The number of jobs on a machine. -/
def number (processors : Option ProcessorCount) : JobCount → Nat
  | .auto => autoJobs processors
  | .fixed n => n

/-- Reads the value of `--jobs`: `auto` in any case, or a number of at least one. -/
def read (value : String) : Except JobsError JobCount :=
  if Text.sameIgnoringCase value "auto" then .ok .auto
  else
    match Text.readCount value.toList with
    | none => .error (.notANumber value)
    | some 0 => .error .zero
    | some n => .ok (.fixed n)

end JobCount

/-- The number of jobs that a value of `--jobs` asks for on a machine. -/
def readJobs (processors : Option ProcessorCount) (value : String) : Except JobsError Nat :=
  (JobCount.read value).map (JobCount.number processors)

/-- What one invocation asks for. -/
structure RunOptions where
  verbose : Bool
  dryRun : Bool
  keepGoing : Bool
  /-- The number of jobs that tools are told. -/
  jobs : Nat
  logLevel : LogLevel
  listPlugins : Bool
  /-- Whether a pattern that is selected but not registered is an error. -/
  strictPatterns : Bool
  /-- The commands to run. -/
  commands : List String
  deriving DecidableEq, Inhabited, Repr

end Orchestrator
