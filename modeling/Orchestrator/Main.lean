import Orchestrator.Program

/-!
# The program on a real file tree

The outer layer takes a snapshot of what the program may look at, runs the program on it, and writes
what the program says.  Tasks run with the programs of the snapshot, which are the small ones and
the shell.
-/

namespace Orchestrator

/-- Reads the environment. -/
def readEnvironment : IO Environment := do
  try
    let block ← IO.FS.readBinFile "/proc/self/environ"
    let texts := ((String.fromUTF8? block).getD "").toList.splitOn '\x00'
    return .ofTexts (texts.map String.ofList)
  catch _ => return .empty

/-- The home directory that a table of accounts has for a user. -/
def homeInAccounts? (accounts : String) (user : String) : Option String :=
  (accounts.toList.splitOn '\n').findSome? fun line =>
    match (line.splitOn ':').map String.ofList with
    | [_, _, number, _, _, home, _] => if number = user then some home else none
    | _ => none

/-- The number of the user in the description of a process. -/
def userInStatus? (status : String) : Option String :=
  (status.toList.splitOn '\n').findSome? fun line =>
    match (line.splitOn '\t').map String.ofList with
    | "Uid:" :: user :: _ => some user
    | _ => none

/-- Reads the home directory of the account of the user. -/
def readAccountHome : IO (Option String) := do
  try
    let status ← IO.FS.readFile "/proc/self/status"
    let accounts ← IO.FS.readFile "/etc/passwd"
    return (userInStatus? status).bind (homeInAccounts? accounts)
  catch _ => return none

/-- How many processors a list of ranges such as `0-3,8` names. -/
def processorsInRanges (ranges : String) : Nat :=
  ((ranges.toList.splitOn ',').map fun range =>
    match (range.splitOn '-').map fun number => (String.ofList number).trimAscii.toNat? with
    | [some _] => 1
    | [some first, some last] => last + 1 - first
    | _ => 0).foldl (· + ·) 0

/-- Reads how many processors the program may use. -/
def readProcessors : IO (Option ProcessorCount) := do
  try
    let status ← IO.FS.readFile "/proc/self/status"
    let ranges := (status.toList.splitOn '\n').findSome? fun line =>
      match (line.splitOn '\t').map String.ofList with
      | ["Cpus_allowed_list:", ranges] => some ranges
      | _ => none
    let n := (ranges.map processorsInRanges).getD 0
    return if h : 0 < n then some ⟨n, h⟩ else none
  catch _ => return none

/-- Adds the file at a path to a tree, if it can be read. -/
def snapshotFile (t : FileTree) (path : String) : IO FileTree := do
  try
    let content ← IO.FS.readBinFile path
    return (t.addDirectory (Location.ofText path).dropLast).add
      (Location.ofText (← IO.FS.realPath path).toString) (.file content)
  catch _ => return t

/-- Adds the directories below a directory to a tree, down to a certain depth, and the files in
them. -/
def snapshotBelow : Nat → FileTree → String → IO FileTree
  | 0, t, _ => return t
  | depth + 1, t, dir => do
    try
      let here ← IO.FS.realPath dir
      let entries ← here.readDir
      entries.foldlM (fun (t : FileTree) entry => do
        let path := entry.path.toString
        if ← entry.path.isDir then
          snapshotBelow depth (t.addDirectory (Location.ofText path)) path
        else snapshotFile t path) t
    catch _ => return t

/-- How deep the snapshot goes below the working directory. -/
def snapshotDepth : Nat := 3

/-- Takes a snapshot of what the program may look at. -/
def snapshot (args : List String) : IO Machine := do
  let dir := (← IO.currentDir).toString
  let start : Machine :=
    { files := Machine.standardFiles.addDirectory (Location.ofText dir)
      environment := ← readEnvironment, workingDir := Location.ofText dir
      accountHome := ← readAccountHome, processors := ← readProcessors, interrupted := false }
  let named := match (CommandLine.EarlyOptions.scan args).settingsFile with
    | none => []
    | some path => (start.namedPath path).toOption.toList
  let files ← snapshotBelow snapshotDepth start.files dir
  let files ← ((start.candidates ++ named).map Path.text).foldlM snapshotFile files
  return { start with files }

end Orchestrator

open Orchestrator in
/-- Runs the program. -/
def main (args : List String) : IO UInt32 := do
  let written := programOutput (← snapshot args) args
  IO.print written.output
  IO.eprint written.errors
  return written.code.toUInt32
