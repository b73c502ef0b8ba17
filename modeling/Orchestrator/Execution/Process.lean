import Orchestrator.Execution.Executor

/-!
# Starting processes

Where processes run is a parameter: a launcher starts the process of a task in a world, and the
world that it leaves may differ, because processes do things and because the user may stop the run
in the meantime.

* `Launcher`: how processes are started, and whether the user stopped the run.
* `Launcher.run`: a task as one process; it is not started once the user has stopped the run, and a
  process that fails while the user stops the run counts as stopped.
* `Executor.immediate`: runs each task as soon as it comes.
-/

namespace Orchestrator

/-- How a process ended. -/
inductive Ending where
  | exited (code : Nat)
  /-- A signal ended it. -/
  | killed
  deriving DecidableEq, Repr

namespace Ending

/-- Whether a process did what it was to do. -/
def succeeded : Ending → Bool
  | .exited code => code == 0
  | .killed => false

/-- The code by which an ending is reported. -/
def code : Ending → Int
  | .exited code => code
  | .killed => -1

end Ending

/-- What comes of starting a process. -/
structure Launched (ω : Type) where
  /-- What the process wrote. -/
  journal : List Entry
  world : ω
  result : Except SpawnError Ending

/-- Where processes are started. -/
structure Launcher (ω : Type) where
  /-- Starts the process of a task and waits for its end. -/
  launch : Task → ω → Launched ω
  /-- Whether the user stopped the run. -/
  isCancelled : ω → Bool

namespace Launcher

variable {ω : Type}

/-- What an end of the process of a task means. -/
def verdict (l : Launcher ω) (t : Task) (w : ω) : Except SpawnError Ending → Option ExecutionError
  | .error e => some (.commandFailed t.render e)
  | .ok ending =>
    if ending.succeeded then none
    else if l.isCancelled w then some .cancelled
    else some (.nonZeroExit t.render ending.code)

/-- What is said about a program that is not there. -/
def complaint (t : Task) : Except SpawnError Ending → List Entry
  | .error .notFound => [.log (.programMissing (t.args.headD ""))]
  | _ => []

/-- Runs a task as one process. -/
def run (l : Launcher ω) (t : Task) (w : ω) : Progress ExecutionError ω :=
  if t.args.isEmpty then .failed w .emptyCommand
  else if l.isCancelled w then .failed w .cancelled
  else
    let r := l.launch t w
    ⟨r.journal ++ complaint t r.result, r.world, l.verdict t r.world r.result⟩

end Launcher

namespace Executor

/-- What an executor that runs its tasks keeps. -/
structure Immediate.State (ω : Type) where
  /-- How many failures were put off. -/
  failures : Nat
  world : ω
  deriving DecidableEq, Repr

/-- The state before any task, in a world. -/
def Immediate.State.initial {ω : Type} (w : ω) : Immediate.State ω := ⟨0, w⟩

/-- Writes each task and runs it.  When the run is to keep going, the failure of a process is put
off to the end. -/
def immediate {ω : Type} (l : Launcher ω) (keepGoing : Bool) : Executor (Immediate.State ω) where
  execute t s :=
    let p := l.run t s.world
    let told := Entry.out ("→ " ++ t.render ++ "\n") :: p.journal
    match p.error with
    | some (.nonZeroExit command code) =>
      if keepGoing then
        ⟨told ++ [.log (.continuing command code)], ⟨s.failures + 1, p.state⟩, none⟩
      else ⟨told, ⟨s.failures, p.state⟩, some (.nonZeroExit command code)⟩
    | e => ⟨told, ⟨s.failures, p.state⟩, e⟩
  finish s := ⟨[], s, if s.failures = 0 then none else some (.tasksFailed s.failures)⟩

end Executor
end Orchestrator
