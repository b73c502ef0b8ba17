/-!
# Why a process fails

* `SpawnError`: why a program could not be started.
* `ExecutionError`: why a task, or a whole list of tasks, failed.
-/

namespace Orchestrator

/-- Why a program could not be started. -/
inductive SpawnError where
  /-- The program or the working directory is not there. -/
  | notFound
  /-- The program may not be run, or the directory not be entered. -/
  | permissionDenied
  /-- A part of a path is a file. -/
  | notADirectory
  /-- The file is no program. -/
  | execFormat
  /-- The name of a file, or a path, takes too many bytes. -/
  | nameTooLong
  /-- An argument or a variable takes too many bytes. -/
  | argumentTooLong
  /-- An argument or a variable holds a NUL character. -/
  | nulByte
  deriving DecidableEq, Repr

/-- The wording of a failed start. -/
def SpawnError.message : SpawnError → String
  | .notFound => "No such file or directory (os error 2)"
  | .permissionDenied => "Permission denied (os error 13)"
  | .notADirectory => "Not a directory (os error 20)"
  | .execFormat => "Exec format error (os error 8)"
  | .nameTooLong => "File name too long (os error 36)"
  | .argumentTooLong => "Argument list too long (os error 7)"
  | .nulByte => "nul byte found in provided data"

/-- Why a task, or a list of tasks, failed. -/
inductive ExecutionError where
  /-- The task has no program. -/
  | emptyCommand
  /-- The program could not be started. -/
  | commandFailed (command : String) (cause : SpawnError)
  /-- The process ended with a code other than zero, or by a signal, which counts as `-1`. -/
  | nonZeroExit (command : String) (code : Int)
  /-- So many tasks failed whose failure was put off. -/
  | tasksFailed (count : Nat)
  /-- The user stopped the run. -/
  | cancelled
  deriving DecidableEq, Repr

/-- The wording of a failure. -/
def ExecutionError.message : ExecutionError → String
  | .emptyCommand => "No command specified to run."
  | .commandFailed command cause =>
    "Command '" ++ command ++ "' could not be executed: " ++ cause.message
  | .nonZeroExit command code =>
    s!"Command '{command}' exited with a non-zero error code ({code})."
  | .tasksFailed count => s!"{count} task(s) failed."
  | .cancelled => "Operation was cancelled by the user."

end Orchestrator
