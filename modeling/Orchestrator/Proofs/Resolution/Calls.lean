import Orchestrator.Proofs.Execution.Watch
import Orchestrator.Proofs.Resolution.Forwarding

/-!
# Recording the calls of an executor

A watched executor keeps the tasks that it is handed.  To say as well how often it is told that no
more tasks come, and when, one records its calls, in order.

* `Executor.recorded`: the executor with the list of its calls beside its state.
* `executeAll_recorded`, `executeCommand_recorded`: handing over tasks adds a call for each task
  that is taken, and no other one.
-/

namespace Orchestrator

/-- What an executor is asked to do. -/
inductive Call where
  | task (task : Task)
  | finish

/-- A state, and the calls that came by. -/
structure Record (σ : Type) where
  calls : List Call
  state : σ

namespace Executor

variable {σ : Type} (x : Executor σ)

/-- The executor, with its calls recorded. -/
def recorded : Executor (Record σ) where
  execute t r :=
    let p := x.execute t r.state
    ⟨p.journal, ⟨r.calls ++ [.task t], p.state⟩, p.error⟩
  finish r :=
    let p := x.finish r.state
    ⟨p.journal, ⟨r.calls ++ [.finish], p.state⟩, p.error⟩

/-- Recording changes nothing but the record. -/
theorem executeAll_recorded (ts : List Task) (calls : List Call) (s : σ) :
    x.recorded.executeAll ts ⟨calls, s⟩ =
      ⟨(x.executeAll ts s).journal,
        ⟨calls ++ (x.taken ts s).map .task, (x.executeAll ts s).state⟩,
        (x.executeAll ts s).error⟩ := by
  induction ts generalizing calls s with
  | nil =>
    show Progress.done _ = _
    rw [taken, List.map_nil, List.append_nil]
    rfl
  | cons t ts ih =>
    rw [executeAll_cons, executeAll_cons]
    cases he : (x.execute t s).error with
    | some e =>
      have hrecorded : (x.recorded.execute t ⟨calls, s⟩).error = some e := he
      rw [Progress.andThen_of_error he, Progress.andThen_of_error hrecorded,
        x.taken_cons_of_some he]
      rfl
    | none =>
      have hrecorded : (x.recorded.execute t ⟨calls, s⟩).error = none := he
      rw [Progress.andThen_of_none he, Progress.andThen_of_none hrecorded,
        x.taken_cons_of_none he]
      show (x.recorded.executeAll ts ⟨calls ++ [.task t], (x.execute t s).state⟩).after _ = _
      rw [ih, List.map_cons, List.append_assoc]
      rfl

end Executor

section

variable {σ : Type} (cfg : Configuration) (x : Executor σ) (f : Frame) (task : Task)
  (commands : List String) (s : σ)

/-- Resolution hands tasks over, and never says that no more come. -/
theorem executeCommands_recorded (calls : List Call) :
    (executeCommands cfg x.recorded f task commands ⟨calls, s⟩).state =
        ⟨calls ++ (handed cfg x f task commands s).map .task,
          (executeCommands cfg x f task commands s).state⟩ ∧
      (executeCommands cfg x.recorded f task commands ⟨calls, s⟩).error =
        (executeCommands cfg x f task commands s).error := by
  constructor
  · rw [state_executeCommands, Executor.executeAll_recorded, handed_eq, state_executeCommands]
  · rw [error_executeCommands, Executor.executeAll_recorded, error_executeCommands]

end
end Orchestrator
