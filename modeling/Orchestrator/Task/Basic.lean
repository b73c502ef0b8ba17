import Orchestrator.Path
import Orchestrator.Task.Placeholder

/-!
# Tasks

A task is one process to be started: its arguments with the program first, the changes to its
environment, and its working directory.

* `append`, `appendAll`, `setEnv`, `extendEnv`, `setWorkingDir`: a task with more in it.
* `substitute`, `expand`: a task with its placeholders replaced, by one combination or by all
  combinations of some patterns.  In a path they are replaced in the text that it is shown as, so
  that only the text is left of it.
* `render`: the arguments with spaces between them.
-/

namespace Orchestrator

/-- Replaces the placeholders in the text that a path is shown as. -/
def Path.replacePlaceholders (c : Combination) (path : Path) : Path :=
  ofText (Orchestrator.replacePlaceholders c path.text)

@[simp] theorem Path.text_replacePlaceholders (c : Combination) (path : Path) :
    (path.replacePlaceholders c).text = Orchestrator.replacePlaceholders c path.text :=
  text_ofText _

/-- One process to be started. -/
structure Task where
  /-- The program and its arguments. -/
  args : List String
  /-- The environment variables that are set for the process. -/
  env : KeyedMap String
  /-- The directory the process starts in, if it is set. -/
  workingDir : Option Path
  deriving DecidableEq, Inhabited, Repr

namespace Task

/-- The task with nothing in it. -/
def empty : Task := ⟨[], .empty, none⟩

/-- The task of an argument list. -/
def ofArgs (args : List String) : Task :=
  { empty with args }

/-- The task with one more argument. -/
def append (t : Task) (arg : String) : Task :=
  { t with args := t.args ++ [arg] }

/-- The task with more arguments. -/
def appendAll (t : Task) (args : List String) : Task :=
  { t with args := t.args ++ args }

/-- The task with an environment variable set. -/
def setEnv (t : Task) (key value : String) : Task :=
  { t with env := t.env.insert key value }

/-- The task with several environment variables set, in order. -/
def extendEnv (t : Task) (env : List (String × String)) : Task :=
  { t with env := t.env.extend env }

/-- The task in a working directory, which the variable `PWD` shows as a text. -/
def setWorkingDir (t : Task) (dir : Path) : Task :=
  { t with env := t.env.insert Names.pwd dir.text, workingDir := some dir }

/-- The task with the placeholders of its arguments, of the values of its environment and of its
working directory replaced. -/
def replaced (t : Task) (c : Combination) : Task where
  args := t.args.map (replacePlaceholders c)
  env := t.env.mapValues (replacePlaceholders c)
  workingDir := t.workingDir.map (Path.replacePlaceholders c)

/-- The task with the placeholders replaced that a combination binds.  The others are left, so that
several layers can each fill in their own.  A combination without bindings leaves the task alone. -/
def substitute (t : Task) (c : Combination) : Task :=
  if c.isEmpty then t else t.replaced c

/-- The task once for each combination of some patterns, in their order. -/
def expand (t : Task) (patterns : List Pattern) : List Task :=
  (Combination.ofPatterns patterns).map t.substitute

/-- Whether two tasks are the same; working directories are compared as paths. -/
def same (a b : Task) : Bool :=
  a.args = b.args && a.env = b.env &&
    match a.workingDir, b.workingDir with
    | some d, some e => Path.same d e
    | none, none => true
    | _, _ => false

/-- The arguments with a space between any two. -/
def render (t : Task) : String :=
  String.intercalate " " t.args

end Task
end Orchestrator
