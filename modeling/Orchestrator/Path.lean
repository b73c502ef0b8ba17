import Orchestrator.Text.Encoding

/-!
# Paths of the file system

A path is a row of bytes whose parts are separated by slashes.  Most paths are the bytes of a text,
but they need not be, and then a path can only be shown as a text.  Two spellings are one path when
their parts agree: repeated and closing slashes do not count, nor do single dots, except that a
relative path which starts with a dot keeps it.  Two dots are a part like another.

* `Path.ofText`, `Path.text`: the path that a text spells, and the text that a path is shown as.
* `Path.ofRow`, `Path.row`: the path whose bytes are in a row, and this row.
* `Path.legible`: the path that is left of a path once it was shown as a text.
* `Path.components`: the parts of a path.
* `Path.same`: whether two spellings are one path.
* `Path.join`, `Path.ancestors`: a path inside another, and the directories around a path.
-/

namespace Orchestrator

/-- A path of the file system. -/
structure Path where
  bytes : List UInt8
  deriving DecidableEq, Inhabited, Repr

namespace Path

/-! ## Texts -/

/-- The path that a text spells. -/
def ofText (text : String) : Path := ⟨Text.encode text⟩

/-- The text that a path is shown as. -/
def text (path : Path) : String := Text.decode path.bytes

@[simp] theorem text_ofText (text : String) : (ofText text).text = text :=
  Text.decode_encode text

/-- The path whose bytes are in a row. -/
def ofRow (row : String) : Path := ⟨Text.bytesOf row⟩

/-- The bytes of a path in a row. -/
def row (path : Path) : String := Text.rowOf path.bytes

/-- The path that is left of a path once it was shown as a text. -/
def legible (path : Path) : Path := ofText path.text

/-- A path that a text spells stays as it is. -/
@[simp] theorem legible_ofText (text : String) : (ofText text).legible = ofText text :=
  congrArg ofText (text_ofText text)

@[simp] theorem text_legible (path : Path) : path.legible.text = path.text :=
  text_ofText path.text

@[simp] theorem legible_legible (path : Path) : path.legible.legible = path.legible :=
  legible_ofText path.text

/-! ## Parts -/

/-- The byte between the parts of a path. -/
def slash : UInt8 := 0x2F

/-- The byte of which the parts consist that are no names. -/
def dot : UInt8 := 0x2E

/-- A part of a path. -/
inductive Component where
  | root
  | here
  | up
  | name (bytes : List UInt8)
  deriving DecidableEq, Repr

/-- Whether a path starts at the root. -/
def isAbsolute (path : Path) : Bool :=
  path.bytes.head? == some slash

/-- The bytes between the slashes, the empty rows among them. -/
def segments (path : Path) : List (List UInt8) :=
  path.bytes.splitOn slash

/-- The part that the bytes between slashes stand for, if any. -/
def component? (segment : List UInt8) : Option Component :=
  if segment = [] ∨ segment = [dot] then none
  else if segment = [dot, dot] then some .up
  else some (.name segment)

/-- Whether the bytes between slashes are the name of a file. -/
def isName (segment : List UInt8) : Bool :=
  segment ≠ [] && segment ≠ [dot] && segment ≠ [dot, dot]

/-- The parts of a path. -/
def components (path : Path) : List Component :=
  let start : List Component :=
    if path.isAbsolute then [.root]
    else if path.segments.head? = some [dot] then [.here]
    else []
  start ++ path.segments.filterMap component?

/-- Whether two spellings are one path. -/
def same (a b : Path) : Bool :=
  a.components = b.components

/-- A path inside a directory; an absolute path stays where it is. -/
def join (dir path : Path) : Path :=
  if path.isAbsolute ∨ dir.bytes = [] then path
  else if dir.bytes.getLast? = some slash then ⟨dir.bytes ++ path.bytes⟩
  else ⟨dir.bytes ++ slash :: path.bytes⟩

/-- The bytes of a part. -/
def Component.bytes : Component → List UInt8
  | .root => []
  | .here => [dot]
  | .up => [dot, dot]
  | .name bytes => bytes

/-- The path of some parts. -/
def ofComponents : List Component → Path
  | [.root] => ⟨[slash]⟩
  | cs => ⟨[slash].intercalate (cs.map Component.bytes)⟩

/-- A list of parts and each list that lacks some of the last ones, down to the first part. -/
def prefixes (cs : List Component) : List (List Component) :=
  (List.range cs.length).map fun n => cs.take (cs.length - n)

/-- A path and the directories around it, from the inside out. -/
def ancestors (path : Path) : List Path :=
  (prefixes path.components).map ofComponents

end Path
end Orchestrator
