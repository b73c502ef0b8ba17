import Orchestrator.Execution.Error
import Orchestrator.Path

/-!
# A tree of files

A location is the list of names on the way from the root to a file, each of them a row of bytes.  A
path is looked up part by part, and every part but the last has to be a directory; so has the last
one when a slash or a dot follows it.  There are no links, so that every file has one location.

* `FileTree.addDirectory`, `FileTree.add`: a tree with more in it.
* `FileTree.locate`, `FileTree.placeFor?`: the location of a path, and of one that may be new.
* `FileTree.isFile`, `FileTree.isDirectory`, `FileTree.content?`: what is at a path.
-/

namespace Orchestrator

/-- The names on the way from the root to a file. -/
abbrev Location := List (List UInt8)

namespace Location

/-- The path of a location. -/
def path (l : Location) : Path :=
  ⟨Path.slash :: [Path.slash].intercalate l⟩

/-- The text that the path of a location is shown as. -/
def text (l : Location) : String := l.path.text

/-- The bytes of the path of a location in a row. -/
def row (l : Location) : String := l.path.row

/-- The location of a path without dots. -/
def ofPath (path : Path) : Location :=
  path.segments.filter (· ≠ [])

/-- The location of a path without dots that a text spells. -/
def ofText (path : String) : Location := ofPath (.ofText path)

end Location

/-- The programs that a machine has. -/
inductive Utility where
  | succeed
  | fail
  | echo
  | printEnvironment
  | printDirectory
  | test
  | sleep
  | makeDirectory
  | shell
  /-- The program whose run it is. -/
  | own
  deriving DecidableEq, Repr

/-- What a location holds. -/
inductive FileNode where
  | directory
  | file (content : ByteArray)
  /-- A program that may be started. -/
  | program (utility : Utility)

/-- Whether a location holds a directory. -/
def FileNode.isDirectory : FileNode → Bool
  | .directory => true
  | _ => false

/-- What the locations hold. -/
structure FileTree where
  /-- The locations below the root that are there. -/
  nodes : List (Location × FileNode)

namespace FileTree

/-- The tree of the root alone. -/
def empty : FileTree := ⟨[]⟩

/-- What a location holds. -/
def node? (t : FileTree) (l : Location) : Option FileNode :=
  if l.isEmpty then some .directory else t.nodes.lookup l

/-- The tree with something at a location below the root. -/
def put (t : FileTree) (l : Location) (n : FileNode) : FileTree :=
  ⟨(l, n) :: t.nodes.filter fun node => node.1 ≠ l⟩

/-- The tree with a directory at a location, and with those around it. -/
def addDirectory (t : FileTree) (l : Location) : FileTree :=
  (List.range l.length).foldl (fun t n => t.put (l.take (n + 1)) .directory) t

/-- The tree with something at a location, and with the directories around it. -/
def add (t : FileTree) (l : Location) (n : FileNode) : FileTree :=
  (t.addDirectory l.dropLast).put l n

/-- The most bytes that the name of a file may take. -/
def longestName : Nat := 255

/-- The most bytes that a path may take. -/
def longestPath : Nat := 4095

/-- One part of a path, seen from a location. -/
def step (t : FileTree) (l : Location) (segment : List UInt8) : Except SpawnError Location :=
  match t.node? l with
  | some .directory =>
    if segment = [] ∨ segment = [Path.dot] then .ok l
    else if segment = [Path.dot, Path.dot] then .ok l.dropLast
    else
      let inner := l ++ [segment]
      if longestName < segment.length then .error .nameTooLong
      else if (t.node? inner).isSome then .ok inner else .error .notFound
  | some _ => .error .notADirectory
  | none => .error .notFound

/-- The location of a path, seen from a directory. -/
def locate (t : FileTree) (dir : Location) (path : Path) : Except SpawnError Location :=
  if path.bytes.contains 0 then .error .nulByte
  else if path.bytes = [] then .error .notFound
  else if longestPath < path.bytes.length then .error .nameTooLong
  else path.segments.foldlM t.step (if path.isAbsolute then [] else dir)

/-- Whether a location holds a directory. -/
def holdsDirectory (t : FileTree) (l : Location) : Bool :=
  match t.node? l with
  | some n => n.isDirectory
  | none => false

/-- What is at a path. -/
def lookup? (t : FileTree) (dir : Location) (path : Path) : Option FileNode :=
  match t.locate dir path with
  | .ok l => t.node? l
  | .error _ => none

/-- The location of a path whose last part need not be there, as long as it is the name of a
file. -/
def placeFor? (t : FileTree) (dir : Location) (path : Path) : Option Location :=
  match t.locate dir path with
  | .ok l => some l
  | .error .notFound =>
    match path.segments.getLast?, path.segments.dropLast with
    | some name, around =>
      if Path.isName name then
        match around.foldlM t.step (if path.isAbsolute then [] else dir) with
        | .ok l => if t.holdsDirectory l then some (l ++ [name]) else none
        | .error _ => none
      else none
    | none, _ => none
  | .error _ => none

/-- Whether a file is at a path. -/
def isFile (t : FileTree) (dir : Location) (path : Path) : Bool :=
  match t.lookup? dir path with
  | some n => !n.isDirectory
  | none => false

/-- Whether a directory is at a path. -/
def isDirectory (t : FileTree) (dir : Location) (path : Path) : Bool :=
  match t.lookup? dir path with
  | some n => n.isDirectory
  | none => false

/-- The content of the file at a location. -/
def content? (t : FileTree) (l : Location) : Option ByteArray :=
  match t.node? l with
  | some (.file content) => some content
  | _ => none

end FileTree
end Orchestrator
