import Orchestrator.Execution.Error
import Orchestrator.Journal
import Orchestrator.Shell.Quoting

/-!
# Executors

An executor is handed the tasks of a run, one after the other, and is told when there are no more.
It keeps a state of its own and may refuse a task.

* `Executor.executeAll`: hands over a list of tasks, up to the first that is refused.
* `Executor.collector`: keeps the tasks.
* `Executor.scripted`: keeps the tasks, and refuses those that a script tells it to refuse.
* `Executor.reporting`: writes each task as a shell line, for a dry run.
-/

namespace Orchestrator

/-- What receives the tasks of a run. -/
structure Executor (σ : Type) where
  /-- Receives a task. -/
  execute : Task → σ → Progress ExecutionError σ
  /-- Learns that no more tasks come, and reports failures that were put off. -/
  finish : σ → Progress ExecutionError σ

namespace Executor

variable {σ : Type}

/-- Hands over tasks in order; the first error ends it. -/
def executeAll (x : Executor σ) : List Task → σ → Progress ExecutionError σ
  | [], s => .done s
  | t :: ts, s => (x.execute t s).andThen (x.executeAll ts)

/-- Keeps the tasks. -/
def collector : Executor (List Task) where
  execute t ts := .done (ts ++ [t])
  finish ts := .done ts

/-- What an executor with a script has seen. -/
structure Script.State where
  /-- The tasks that were handed over, the refused ones too. -/
  attempted : List Task
  /-- How often it was told that no more tasks come. -/
  finished : Nat
  deriving DecidableEq, Repr

/-- The state before anything was seen. -/
def Script.State.initial : Script.State := ⟨[], 0⟩

/-- Keeps the tasks.  The script says for the number of a task, counted from zero, with which error
it is refused, and with which error the end is answered. -/
def scripted (refuse : Nat → Task → Option ExecutionError) (atEnd : Option ExecutionError) :
    Executor Script.State where
  execute t s :=
    ⟨[], { s with attempted := s.attempted ++ [t] }, refuse s.attempted.length t⟩
  finish s := ⟨[], { s with finished := s.finished + 1 }, atEnd⟩

/-- The lines that announce a task in a dry run. -/
def reportLines (t : Task) : String :=
  "→ " ++ t.shellLine ++ "\n" ++
    match t.workingDir with
    | some dir => "    in " ++ dir.text ++ "\n"
    | none => ""

/-- Writes each task instead of running it, and counts the tasks. -/
def reporting : Executor Nat where
  execute t n := ⟨[.out (reportLines t)], n + 1, none⟩
  finish n := .done n

end Executor
end Orchestrator
