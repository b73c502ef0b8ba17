import Orchestrator.Machine.Shell

/-!
# The machine on which tasks run

A machine is a tree of files, an environment, a directory, the home of its user, its processors, and
whether the user has stopped the run.  Its programs are the small ones, the shell, and the program
whose run it is, which a process finds under the number of the run and may start once more.

* `Machine.standardFiles`: a tree that holds the programs.
* `Machine.launcher`: starting processes on a machine.
-/

namespace Orchestrator

/-- A machine. -/
structure Machine where
  files : FileTree
  environment : Environment
  workingDir : Location
  /-- The home directory of the account of the user. -/
  accountHome : Option String
  /-- How many processors the program may use, if the machine tells. -/
  processors : Option ProcessorCount
  /-- Whether the user has stopped the run. -/
  interrupted : Bool

namespace Machine

/-- The names of the programs. -/
def programs : List (String × Utility) :=
  [("true", .succeed), ("false", .fail), ("echo", .echo), ("printenv", .printEnvironment),
   ("pwd", .printDirectory), ("test", .test), ("[", .test), ("sleep", .sleep),
   ("mkdir", .makeDirectory), ("sh", .shell)]

/-- The directories that every machine has. -/
def directories : List Location :=
  ["/bin", "/dev", "/etc", "/home", "/opt", "/root", "/tmp", "/usr/bin", "/usr/lib",
   "/usr/local/bin", "/var"].map .ofText

/-- The number of the process of the run itself. -/
def runProcess : Nat := 100

/-- The tree that holds the programs. -/
def standardFiles : FileTree :=
  let t := directories.foldl FileTree.addDirectory .empty
  let place (t : FileTree) (dir : String) : FileTree :=
    programs.foldl (fun t p => t.add (.ofText (dir ++ "/" ++ p.1)) (.program p.2)) t
  let t := (place (place t "/bin") "/usr/bin").add (.ofText "/dev/null") (.file .empty)
  t.add (.ofText s!"/proc/{runProcess}/exe") (.program .own)

/-- Runs a program.  Shells start each other only to a certain depth, and how the program whose run
it is runs is a parameter. -/
def runAtDepth (own : ProcessStart → ProcessEnd) : Nat → Starter
  | 0, _, p => p.finish [] 126
  | _ + 1, .own, p => own p
  | depth + 1, .shell, p => runShell (runAtDepth own depth) p
  | _ + 1, u, p => runUtility u p

/-- How deep shells start each other. -/
def shellDepth : Nat := 64

/-- The most bytes that an argument or a variable may take. -/
def longestArgument : Nat := 131071

/-- Whether an argument or a variable takes too many bytes. -/
def isTooLong (args : List String) (environment : Environment) : Bool :=
  (args ++ environment.texts).any fun t => longestArgument < t.utf8ByteSize

/-- Whether a task holds a character that cannot be handed to a process. -/
def holdsNul (t : Task) : Bool :=
  let holds (s : String) : Bool := s.toList.contains '\x00'
  t.args.any holds || t.env.entries.any (fun e => holds e.1 || holds e.2) ||
    (t.workingDir.map fun dir => dir.bytes.contains 0).getD false

/-- The directory in which the process of a task starts. -/
def directoryOf (m : Machine) (t : Task) : Except SpawnError Location :=
  match t.workingDir with
  | none => .ok m.workingDir
  | some dir =>
    match m.files.locate m.workingDir dir with
    | .error e => .error e
    | .ok l => if m.files.holdsDirectory l then .ok l else .error .notADirectory

/-- The start of the process of a task: the program, and what the process finds. -/
def startOf (m : Machine) (t : Task) : Except SpawnError (Utility × ProcessStart) :=
  if holdsNul t then .error .nulByte
  else
    match m.directoryOf t with
    | .error e => .error e
    | .ok dir =>
      let texts := m.environment.forChild t.env
      let environment := texts.toRows
      let name := Text.toRow (t.args.headD "")
      match ShellState.findProgram m.files dir environment name with
      | .error e => .error e
      | .ok u =>
        if isTooLong t.args texts then .error .argumentTooLong
        else
          .ok (u, { name, args := (t.args.drop 1).map Text.toRow, environment, workingDir := dir
                    files := m.files, interrupted := m.interrupted, parent := runProcess })

/-- What a process wrote, each of the two outputs as the text that its bytes are shown as. -/
def shown (journal : List Entry) : List Entry :=
  [.out (Text.ofRow (Entry.output journal)), .err (Text.ofRow (Entry.errorOutput journal))]

/-- How the program whose run it is runs as a process on a machine. -/
abbrev OwnProgram := Machine → ProcessStart → ProcessEnd

/-- Starts the process of a task and waits for its end. -/
def launch (own : OwnProgram) (t : Task) (m : Machine) : Launched Machine :=
  match m.startOf t with
  | .error e => ⟨[], m, .error e⟩
  | .ok (u, p) =>
    let e := runAtDepth (own m) shellDepth u p
    ⟨shown e.journal, { m with files := e.files, interrupted := e.interrupted }, .ok e.ending⟩

/-- Starting processes on a machine. -/
def launcher (own : OwnProgram) : Launcher Machine where
  launch := launch own
  isCancelled m := m.interrupted

end Machine
end Orchestrator
