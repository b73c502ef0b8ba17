import Orchestrator.Machine.Script
import Orchestrator.Machine.Utility

/-!
# A small shell

The shell runs the steps of a script in order and keeps its variables, its directory and the code of
the last command between them.  Some commands are its own, the others are programs that it starts.
Starting them is a parameter, because one of the programs is the shell.  The script and all other
texts are rows of bytes.

A signal that a process sends to itself ends it, and an interrupt that the shell sends to the
process that started it stops the run.

* `ShellState`: what the shell keeps.
* `expand`: the arguments that the words of a command stand for.
* `ShellState.runSteps`: the steps of a script.
* `runShell`: the shell as a program.
-/

namespace Orchestrator
namespace Machine

/-- What the shell keeps between two commands. -/
structure ShellState where
  /-- The variables that the programs see which it starts. -/
  environment : Environment
  /-- The other variables. -/
  ownVariables : KeyedMap String
  workingDir : Location
  files : FileTree
  interrupted : Bool
  /-- The code of the last command. -/
  status : Nat
  /-- What was written. -/
  journal : List Entry
  /-- How the shell ended, once it has. -/
  ended : Option Ending
  /-- The name of the script and its arguments. -/
  parameters : List String
  parent : Nat

/-- How a shell starts a program. -/
abbrev Starter := Utility → ProcessStart → ProcessEnd

namespace ShellState

/-- The number of the process of a shell. -/
def process (s : ShellState) : Nat := s.parent + 1

/-! ## Words -/

/-- The value of a variable. -/
def valueOf? (s : ShellState) (name : String) : Option String :=
  match s.ownVariables.get? name with
  | some v => some v
  | none => s.environment.get? name

/-- The value of a parameter. -/
def parameter? (s : ShellState) (name : String) : Option String :=
  match name with
  | "?" => some (toString s.status)
  | "$" => some (toString s.process)
  | "#" => some (toString (s.parameters.length - 1))
  | "@" => some (String.intercalate " " (s.parameters.drop 1))
  | "*" => some (String.intercalate " " (s.parameters.drop 1))
  | "PPID" => some (toString s.parent)
  | name =>
    match name.toList with
    | [c] => if c.isDigit then s.parameters[c.toNat - '0'.toNat]? else s.valueOf? name
    | _ => s.valueOf? name

/-- The text of a part of a word, and whether blanks in it end the argument. -/
def partText (s : ShellState) : WordPart → List Char × Bool
  | .text t _ => (t, false)
  | .parameter name none quoted => (((s.parameter? name).getD "").toList, !quoted)
  | .parameter name (some fallback) quoted =>
    match s.parameter? name with
    | none => (fallback, !quoted)
    | some "" => (fallback, !quoted)
    | some v => (v.toList, !quoted)

/-- Whether a part of a word makes an argument even when its text is empty. -/
def isSolid : WordPart → Bool
  | .text _ _ => true
  | .parameter _ _ quoted => quoted

/-- Takes the characters of a text into arguments of which the last is unfinished. -/
def cutAtBlanks (done : List String) (current : Option (List Char)) :
    List Char → List String × Option (List Char)
  | [] => (done, current)
  | c :: cs =>
    if c = ' ' ∨ c = '\t' ∨ c = '\n' then
      match current with
      | some w => cutAtBlanks (done ++ [String.ofList w]) none cs
      | none => cutAtBlanks done none cs
    else cutAtBlanks done (some (current.getD [] ++ [c])) cs

/-- Takes a part of a word into arguments of which the last is unfinished. -/
def expandPart (s : ShellState) (found : List String × Option (List Char)) (p : WordPart) :
    List String × Option (List Char) :=
  match s.partText p with
  | (t, true) => cutAtBlanks found.1 found.2 t
  | (t, false) =>
    (found.1, if isSolid p then some (found.2.getD [] ++ t) else found.2)

/-- The arguments that a word stands for. -/
def expandWord (s : ShellState) (w : ScriptWord) : List String :=
  let start : List String × Option (List Char) :=
    ([], if w.isEmpty then some [] else none)
  match w.foldl s.expandPart start with
  | (done, some current) => done ++ [String.ofList current]
  | (done, none) => done

/-- The text that a word stands for where one argument is needed. -/
def wordText (s : ShellState) (w : ScriptWord) : String :=
  String.ofList (w.flatMap fun p => (s.partText p).1)

/-! ## Assignments -/

/-- The name and the value of a word that sets a variable. -/
def assignment? (w : ScriptWord) : Option (String × ScriptWord) :=
  match w with
  | .text t false :: rest =>
    let name := t.takeWhile fun c => c.isAlphanum || c == '_'
    match name, t.drop name.length with
    | c :: _, '=' :: value =>
      if c.isDigit then none else some (String.ofList name, .text value false :: rest)
    | _, _ => none
  | _ => none

/-- Sets a variable. -/
def assign (s : ShellState) (name value : String) : ShellState :=
  if s.environment.contains name then
    { s with environment := s.environment.insert name value }
  else { s with ownVariables := s.ownVariables.insert name value }

/-- Lets the programs see a variable. -/
def exportVariable (s : ShellState) (argument : String) : ShellState :=
  let cs := argument.toList
  let name := String.ofList (cs.takeWhile (· ≠ '='))
  match cs.dropWhile (· ≠ '=') with
  | _ :: value => { s with environment := s.environment.insert name (String.ofList value) }
  | [] =>
    match s.ownVariables.get? name with
    | some v => { s with environment := s.environment.insert name v }
    | none => s

/-- Forgets a variable. -/
def unset (s : ShellState) (name : String) : ShellState :=
  { s with
    environment := s.environment.filter (· ≠ name)
    ownVariables := s.ownVariables.filter (· ≠ name) }

/-! ## Output -/

/-- Where output goes. -/
inductive Sink where
  | output
  | errors
  | nowhere
  | file (place : Location)
  deriving DecidableEq

/-- Writes a text. -/
def write (s : ShellState) (sink : Sink) (text : String) : ShellState :=
  if text.isEmpty then s
  else
    match sink with
    | .output => { s with journal := s.journal ++ [.out text] }
    | .errors => { s with journal := s.journal ++ [.err text] }
    | .nowhere => s
    | .file place =>
      let old := (s.files.content? place).getD .empty
      { s with files := s.files.add place (.file (old ++ ⟨(Text.bytesOf text).toArray⟩)) }

/-- Where the two outputs of a command go. -/
structure Sinks where
  output : Sink
  errors : Sink

/-- The place of a file that output goes to, if there is a directory for it. -/
def placeFor? (s : ShellState) (path : Path) : Option Location :=
  (s.files.placeFor? s.workingDir path).filter fun l => !s.files.holdsDirectory l

/-- Sets where the output of a descriptor goes. -/
def Sinks.set (sinks : Sinks) (descriptor : Nat) (sink : Sink) : Sinks :=
  if descriptor = 1 then { sinks with output := sink }
  else if descriptor = 2 then { sinks with errors := sink }
  else sinks

/-- Applies a redirection; `none` when there is no such place. -/
def redirect (s : ShellState) (sinks : Sinks) (r : Redirect) : Option (ShellState × Sinks) :=
  match r.target with
  | .descriptor w =>
    match s.wordText w with
    | "1" => some (s, sinks.set r.descriptor sinks.output)
    | "2" => some (s, sinks.set r.descriptor sinks.errors)
    | "-" => some (s, sinks.set r.descriptor .nowhere)
    | _ => none
  | .file w append =>
    let path := s.wordText w
    if path = "/dev/null" then some (s, sinks.set r.descriptor .nowhere)
    else
      (s.placeFor? (.ofRow path)).map fun place =>
        let s := if append && (s.files.node? place).isSome then s
          else { s with files := s.files.add place (.file .empty) }
        (s, sinks.set r.descriptor (.file place))

/-- Applies redirections in order. -/
def redirectAll : List Redirect → ShellState → Sinks → Option (ShellState × Sinks)
  | [], s, sinks => some (s, sinks)
  | r :: rs, s, sinks =>
    match s.redirect sinks r with
    | some (s, sinks) => redirectAll rs s sinks
    | none => none

/-! ## Commands -/

/-- The name under which the shell reports errors. -/
def scriptName (s : ShellState) : String := s.parameters.headD "sh"

/-- Ends a command with a code. -/
def withStatus (s : ShellState) (code : Nat) : ShellState :=
  { s with status := code }

/-- Reports an error and ends the command with a code. -/
def complain (s : ShellState) (sinks : Sinks) (what : String) (code : Nat) : ShellState :=
  (s.write sinks.errors (s.scriptName ++ ": 1: " ++ what ++ "\n")).withStatus code

/-- What a program finds that the shell starts. -/
def startOf (s : ShellState) (name : String) (args : List String)
    (environment : Environment) : ProcessStart :=
  { name, args, environment, workingDir := s.workingDir, files := s.files
    interrupted := s.interrupted, parent := s.process }

/-- Takes over what a program left.  A program that ends because the user stopped the run takes the
shell with it. -/
def takeOver (s : ShellState) (sinks : Sinks) (e : ProcessEnd) : ShellState :=
  let s := { s with files := e.files, interrupted := e.interrupted }
  let s := e.journal.foldl (fun s entry =>
    match entry with
    | .out t => s.write sinks.output t
    | .err t => s.write sinks.errors t
    | other => { s with journal := s.journal ++ [other] }) s
  match e.ending with
  | .exited code => s.withStatus code
  | .killed => if s.interrupted then { s with ended := some .killed } else s.withStatus 137

/-- The program that a name means: the file at a path, or the first of that name in the directories
of the variable `PATH`. -/
def findProgram (files : FileTree) (workingDir : Location) (environment : Environment)
    (name : String) : Except SpawnError Utility :=
  if name.toList.contains '/' then
    match files.locate workingDir (.ofRow name) with
    | .error e => .error e
    | .ok l =>
      match files.node? l with
      | some (.program u) => .ok u
      | _ => .error .permissionDenied
  else if name = "" then .error .notFound
  else if FileTree.longestName < name.length then .error .nameTooLong
  else
    let dirs := (((environment.valueOf? "PATH").getD "/bin:/usr/bin").toList.splitOn ':')
    let nodes := dirs.filterMap fun dir =>
      files.lookup? workingDir
        (.ofRow ((if dir = [] then "." else String.ofList dir) ++ "/" ++ name))
    match nodes.findSome? fun n => match n with
        | .program u => some u
        | _ => none with
    | some u => .ok u
    | none => .error (if nodes.isEmpty then .notFound else .permissionDenied)

/-- Starts a program and waits for it. -/
def runProgram (start : Starter) (s : ShellState) (sinks : Sinks) (environment : Environment)
    (name : String) (args : List String) : ShellState :=
  match findProgram s.files s.workingDir environment name with
  | .ok u => s.takeOver sinks (start u (s.startOf name args environment))
  | .error .permissionDenied => s.complain sinks (name ++ ": Permission denied") 126
  | .error .nameTooLong => s.complain sinks (name ++ ": File name too long") 127
  | .error _ => s.complain sinks (name ++ ": not found") 127

/-- The signals that end no process. -/
def isHarmless (signal : String) : Bool :=
  ["0", "CHLD", "17", "CONT", "18", "URG", "23", "WINCH", "28"].contains signal

/-- Sends a signal to a process. -/
def signal (s : ShellState) (name target : String) : ShellState :=
  if target = toString s.process then
    if isHarmless name then s else { s with ended := some .killed }
  else if target = toString s.parent ∧ (name = "INT" ∨ name = "2") then
    { s with interrupted := true }
  else s

/-- Sends signals as `kill` is told to. -/
def kill (s : ShellState) (args : List String) : ShellState :=
  match args with
  | "-s" :: name :: targets => targets.foldl (fun s t => s.signal name t) s
  | arg :: targets =>
    match arg.toList with
    | '-' :: name =>
      let name := String.ofList name
      let name := if name.startsWith "SIG" then String.ofList (name.toList.drop 3) else name
      targets.foldl (fun s t => s.signal name t) s
    | _ => (arg :: targets).foldl (fun s t => s.signal "TERM" t) s
  | [] => s

/-- The code that `exit` is told. -/
def exitCode (s : ShellState) (args : List String) : Nat :=
  match args with
  | [] => s.status
  | arg :: _ =>
    match digits? arg.toList with
    | some n => n.toNat % 256
    | none => 2

/-- Goes to another directory. -/
def changeDirectory (s : ShellState) (sinks : Sinks) (path : String) : ShellState :=
  match s.files.locate s.workingDir (.ofRow path) with
  | .ok l =>
    if s.files.holdsDirectory l then
      ({ s with workingDir := l }.assign Names.pwd l.row).withStatus 0
    else s.complain sinks ("cd: can't cd to " ++ path) 2
  | .error _ => s.complain sinks ("cd: can't cd to " ++ path) 2

/-- The text that the shell's own `echo` writes, which replaces backslash sequences. -/
def ownEcho (args : List String) : String :=
  match args with
  | "-n" :: args => echoText args true false
  | args => echoText args true true

/-- The text of one round of a format, and the arguments left over. -/
def formatOnce : List Char → List String → List Char × List String
  | '%' :: '%' :: cs, args =>
    let (text, args) := formatOnce cs args
    ('%' :: text, args)
  | '%' :: _ :: cs, args =>
    let (text, rest) := formatOnce cs (args.drop 1)
    ((args.headD "").toList ++ text, rest)
  | c :: cs, args =>
    let (text, args) := formatOnce cs args
    (c :: text, args)
  | [], args => ([], args)

/-- The text of a format, which is used again as long as arguments are left. -/
def format (rounds : Nat) (f : List Char) (args : List String) : List Char :=
  match rounds with
  | 0 => []
  | rounds + 1 =>
    let (text, rest) := formatOnce f args
    if rest.isEmpty || rest.length == args.length then text else text ++ format rounds f rest

/-- Runs a command with its arguments. -/
def runArguments (start : Starter) (s : ShellState) (sinks : Sinks)
    (environment : Environment) (name : String) (args : List String) : ShellState :=
  match name with
  | ":" => s.withStatus 0
  | "true" => s.withStatus 0
  | "false" => s.withStatus 1
  | "exit" => { s with ended := some (.exited (s.exitCode args)) }
  | "echo" => (s.write sinks.output (ownEcho args)).withStatus 0
  | "printf" =>
    let f := (unescape (args.headD "").toList).1
    (s.write sinks.output (String.ofList (format (args.length + 1) f (args.drop 1)))).withStatus 0
  | "pwd" => (s.write sinks.output (s.workingDir.row ++ "\n")).withStatus 0
  | "cd" => s.changeDirectory sinks (args.headD ((s.environment.get? "HOME").getD "/"))
  | "kill" => (s.kill args).withStatus 0
  | "export" => (args.foldl exportVariable s).withStatus 0
  | "unset" => (args.foldl unset s).withStatus 0
  | "test" => s.withStatus (testCode (s.startOf name args environment) args)
  | "[" => s.withStatus (bracketCode (s.startOf name args environment) args)
  | "exec" =>
    match args with
    | [] => s.withStatus 0
    | program :: args =>
      let s := s.runProgram start sinks environment program args
      { s with ended := some (s.ended.getD (.exited s.status)) }
  | name => s.runProgram start sinks environment name args

/-- The words at the front that set variables, and the others. -/
def splitAssignments : List ScriptWord → List (String × ScriptWord) × List ScriptWord
  | [] => ([], [])
  | w :: ws =>
    match assignment? w with
    | none => ([], w :: ws)
    | some a =>
      let (as, ws) := splitAssignments ws
      (a :: as, ws)

/-- Runs a simple command. -/
def runSimple (start : Starter) (s : ShellState) (c : SimpleCommand) : ShellState :=
  let (assignments, words) := splitAssignments c.words
  match redirectAll c.redirects s ⟨.output, .errors⟩ with
  | none => s.complain ⟨.output, .errors⟩ "cannot redirect" 2
  | some (s, sinks) =>
    match words.flatMap s.expandWord with
    | [] =>
      (assignments.foldl (fun (s : ShellState) a => s.assign a.1 (s.wordText a.2)) s).withStatus 0
    | name :: args =>
      let environment := assignments.foldl
        (fun (e : Environment) a => e.insert a.1 (s.wordText a.2)) s.environment
      s.runArguments start sinks environment name args

/-- Whether a step is to run. -/
def isDue (s : ShellState) : Condition → Bool
  | .always => true
  | .afterSuccess => s.status == 0
  | .afterFailure => s.status != 0

/-- Runs a step. -/
def runStep (start : Starter) (s : ShellState) (step : ScriptStep) : ShellState :=
  if s.ended.isSome || !s.isDue step.condition then s
  else
    let s := s.runSimple start step.command
    if step.negated then s.withStatus (if s.status = 0 then 1 else 0) else s

/-- Runs steps in order. -/
def runSteps (start : Starter) (s : ShellState) (steps : List ScriptStep) : ShellState :=
  steps.foldl (runStep start) s

/-- The state of a shell that starts.  The variable `PWD` names its directory. -/
def initial (p : ProcessStart) (parameters : List String) : ShellState where
  environment := p.environment.forShell.insert Names.pwd p.workingDir.row
  ownVariables := .empty
  workingDir := p.workingDir
  files := p.files
  interrupted := p.interrupted
  status := 0
  journal := []
  ended := none
  parameters := parameters
  parent := p.parent

/-- What a shell leaves. -/
def conclude (s : ShellState) : ProcessEnd :=
  ⟨s.journal, s.ended.getD (.exited s.status), s.files, s.interrupted⟩

end ShellState

/-- Runs the text of a script. -/
def runScript (start : Starter) (p : ProcessStart) (script : String) (parameters : List String) :
    ProcessEnd :=
  let s := ShellState.initial p parameters
  match ScriptStep.ofScript? script with
  | none => (s.complain ⟨.output, .errors⟩ "Syntax error" 2).conclude
  | some steps => (s.runSteps start steps).conclude

/-- Runs the shell: a script from an argument or from a file. -/
def runShell (start : Starter) (p : ProcessStart) : ProcessEnd :=
  match p.args with
  | [] => p.finish [] 0
  | "-c" :: script :: [] => runScript start p script [p.name]
  | "-c" :: script :: parameters => runScript start p script parameters
  | ["-c"] => p.finish [.err (p.name ++ ": 0: -c requires an argument\n")] 2
  | file :: parameters =>
    match p.files.locate p.workingDir (.ofRow file) with
    | .error _ => p.finish [.err (p.name ++ ": 0: cannot open " ++ file ++ ": No such file\n")] 2
    | .ok l =>
      match p.files.content? l with
      | none => p.finish [.err (p.name ++ ": 0: cannot open " ++ file ++ "\n")] 2
      | some content =>
        runScript start p (Text.rowOf content.data.toList) (file :: parameters)

end Machine
end Orchestrator
