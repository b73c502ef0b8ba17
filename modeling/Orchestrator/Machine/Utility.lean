import Orchestrator.Environment
import Orchestrator.Execution.Process
import Orchestrator.Machine.FileTree

/-!
# Small programs

The texts that processes are given and that they write are rows of bytes, with one character for
each byte.

* `ProcessStart`: what a process finds when it starts.
* `ProcessEnd`: what it leaves.
* `runUtility`: the small programs, the shell left out.
-/

namespace Orchestrator
namespace Machine

/-- What a process finds when it starts. -/
structure ProcessStart where
  /-- The name by which the program was called. -/
  name : String
  args : List String
  environment : Environment
  workingDir : Location
  files : FileTree
  /-- Whether the user has stopped the run. -/
  interrupted : Bool
  /-- The number of the process that started this one. -/
  parent : Nat

/-- What a process leaves. -/
structure ProcessEnd where
  /-- What it wrote. -/
  journal : List Entry
  ending : Ending
  files : FileTree
  interrupted : Bool

namespace ProcessStart

/-- The end of a process that wrote something and changed nothing. -/
def finish (p : ProcessStart) (journal : List Entry) (code : Nat) : ProcessEnd :=
  ⟨journal, .exited code, p.files, p.interrupted⟩

end ProcessStart

/-! ## Writing arguments -/

/-- A text with its backslash sequences replaced, and whether `\c` cut it short. -/
def unescape : List Char → List Char × Bool
  | '\\' :: 'c' :: _ => ([], true)
  | '\\' :: c :: rest =>
    let (tail, isCut) := unescape rest
    match c with
    | 'n' => ('\n' :: tail, isCut)
    | 't' => ('\t' :: tail, isCut)
    | 'r' => ('\r' :: tail, isCut)
    | 'a' => ('\x07' :: tail, isCut)
    | 'b' => ('\x08' :: tail, isCut)
    | 'f' => ('\x0c' :: tail, isCut)
    | 'v' => ('\x0b' :: tail, isCut)
    | '\\' => ('\\' :: tail, isCut)
    | c => ('\\' :: c :: tail, isCut)
  | c :: rest =>
    let (tail, isCut) := unescape rest
    (c :: tail, isCut)
  | [] => ([], false)

/-- Arguments on one line. -/
def echoText (args : List String) (escapes newline : Bool) : String :=
  let line := String.intercalate " " args
  if escapes then
    let (text, isCut) := unescape line.toList
    String.ofList text ++ if newline && !isCut then "\n" else ""
  else line ++ if newline then "\n" else ""

/-- Whether an argument holds options of `echo`. -/
def isEchoOption (arg : String) : Bool :=
  match arg.toList with
  | '-' :: c :: rest => (c :: rest).all fun c => ['n', 'e', 'E'].contains c
  | _ => false

/-- Whether the options ask for backslash sequences to be replaced; the last one counts. -/
def echoEscapes (options : List String) : Bool :=
  (options.flatMap String.toList).foldl
    (fun b c => if c = 'e' then true else if c = 'E' then false else b) false

/-- The text that `echo` writes. -/
def echo (args : List String) : String :=
  let options := args.takeWhile isEchoOption
  echoText (args.drop options.length) (echoEscapes options)
    !(options.any fun o => o.toList.contains 'n')

/-! ## Conditions -/

/-- The number that digits write. -/
def digits? (digits : List Char) : Option Int :=
  if digits ≠ [] ∧ digits.all Char.isDigit then
    some (digits.foldl (fun (n : Int) c => 10 * n + (c.toNat - '0'.toNat : Nat)) 0)
  else none

/-- The number of an argument of a condition. -/
def number? (s : String) : Option Int :=
  match s.toList with
  | '+' :: digits => digits? digits
  | '-' :: digits => (digits? digits).map fun n => -n
  | digits => digits? digits

/-- A condition on one argument. -/
def unary? (p : ProcessStart) (op arg : String) : Option Bool :=
  let path := Path.ofRow arg
  let node := p.files.lookup? p.workingDir path
  match op with
  | "-n" => some (arg ≠ "")
  | "-z" => some (arg = "")
  | "-e" => some node.isSome
  | "-r" => some node.isSome
  | "-w" => some node.isSome
  | "-d" => some (p.files.isDirectory p.workingDir path)
  | "-f" => some (p.files.isFile p.workingDir path)
  | "-x" =>
    match node with
    | some .directory => some true
    | some (.program _) => some true
    | _ => some false
  | "-s" =>
    match node with
    | some (.file content) => some (content.size ≠ 0)
    | n => some n.isSome
  | "-L" => some false
  | "-h" => some false
  | _ => none

/-- A comparison of two numbers. -/
def compareNumbers? (op : String) (a b : Int) : Option Bool :=
  match op with
  | "-eq" => some (a = b)
  | "-ne" => some (a ≠ b)
  | "-lt" => some (a < b)
  | "-le" => some (a ≤ b)
  | "-gt" => some (b < a)
  | "-ge" => some (b ≤ a)
  | _ => none

/-- A condition on two arguments. -/
def binary? (a op b : String) : Option Bool :=
  match op with
  | "=" => some (a = b)
  | "==" => some (a = b)
  | "!=" => some (a ≠ b)
  | op =>
    match number? a, number? b with
    | some m, some n => compareNumbers? op m n
    | _, _ => none

/-- Whether a condition holds; `none` when it is not understood. -/
def condition? (p : ProcessStart) : List String → Option Bool
  | [] => some false
  | [a] => some (a ≠ "")
  | ["!", a] => some (a = "")
  | [op, a] => unary? p op a
  | [a, op, b] =>
    match binary? a op b with
    | some r => some r
    | none => if a = "!" then (unary? p op b).map not else none
  | "!" :: rest => (condition? p rest).map not
  | _ => none

/-- The code by which `test` ends. -/
def testCode (p : ProcessStart) (args : List String) : Nat :=
  match condition? p args with
  | some true => 0
  | some false => 1
  | none => 2

/-- The code by which a test between brackets ends. -/
def bracketCode (p : ProcessStart) (args : List String) : Nat :=
  if args.getLast? = some "]" then testCode p args.dropLast else 2

/-! ## The environment -/

/-- The values of a variable that is asked for by a name without a sign of equality. -/
def askedValues (environment : Environment) (name : String) : List String :=
  if name.toList.contains '=' then [] else environment.values name

/-- The variables that are asked for, and whether all of them are set. -/
def printEnvironment (environment : Environment) (names : List String) : String × Bool :=
  let lines (texts : List String) := String.join (texts.map fun t => t ++ "\n")
  if names.isEmpty then (lines environment.texts, true)
  else
    (lines (names.flatMap (askedValues environment)),
      names.all fun name => !(askedValues environment name).isEmpty)

/-! ## Directories -/

/-- Makes a directory, if there is none, and adds what is written about it. -/
def makeDirectory (p : ProcessStart) (made : FileTree × List Entry) (name : String) :
    FileTree × List Entry :=
  let refused (why : String) : FileTree × List Entry :=
    (made.1, made.2 ++ [.err (s!"mkdir: cannot create directory '{name}': {why}\n")])
  match made.1.placeFor? p.workingDir (.ofRow name) with
  | none => refused "No such file or directory"
  | some l =>
    if (made.1.node? l).isSome then refused "File exists" else (made.1.put l .directory, made.2)

/-- Makes directories. -/
def makeDirectories (p : ProcessStart) : ProcessEnd :=
  let (files, complaints) := p.args.foldl (makeDirectory p) (p.files, [])
  ⟨complaints, .exited (if complaints.isEmpty then 0 else 1), files, p.interrupted⟩

/-- Runs a small program. -/
def runUtility (u : Utility) (p : ProcessStart) : ProcessEnd :=
  match u with
  | .succeed => p.finish [] 0
  | .fail => p.finish [] 1
  | .echo => p.finish [.out (echo p.args)] 0
  | .printEnvironment =>
    let (text, found) := printEnvironment p.environment p.args
    p.finish [.out text] (if found then 0 else 1)
  | .printDirectory => p.finish [.out (p.workingDir.row ++ "\n")] 0
  | .test => p.finish [] (if p.name.endsWith "[" then bracketCode p p.args else testCode p p.args)
  | .sleep =>
    if p.interrupted then ⟨[], .killed, p.files, true⟩ else p.finish [] 0
  | .makeDirectory => makeDirectories p
  | .shell => p.finish [] 0
  | .own => p.finish [] 0

end Machine
end Orchestrator
