/-!
# The settings tree

A settings file is held as a tree of named nodes whose children keep the order of the file.  There
is no separate kind of node for a value: `make: [a, b]` is the node `make` with the leaves `a` and
`b`, so that values and section names share one name space and siblings may repeat a name.

Every look-up goes by name and takes the first child of that name.

* `child?`, `childAt?`: the child of a name, and the node at a path of names.
* `values?`, `get?`: the names of the children, read as values.
* `modifyAt`: makes the missing nodes of a path and changes the last one; `addValues` and
  `ensurePath` are its uses, and refuse a path with an empty name.
* `clear`, `replace`, `overwrite`: removal, replacement, and one tree laid over another.
* `agree`: equality up to the order of siblings.
* `render`: the tree as indented lines.
-/

namespace Orchestrator

/-- A named node with an ordered list of children. -/
inductive SettingsTree where
  | node (key : String) (children : List SettingsTree)
  deriving Inhabited, Repr

/-- What a list of values is read as. -/
inductive ValueKind where
  | text
  | yesNo
  | count
  | character
  | path
  | list
  deriving DecidableEq, Repr

/-- The kind, as messages name it. -/
def ValueKind.describe : ValueKind → String
  | .text => "a string"
  | .yesNo => "a yes/no value"
  | .count => "a non-negative number"
  | .character => "a single character"
  | .path => "a path"
  | .list => "a list of strings"

/-- Why settings cannot be changed or read. -/
inductive SettingsError where
  /-- A path along which a node was to be made has an empty name. -/
  | invalidPath (path : List String)
  /-- The values at a path cannot be read as the kind that is asked for. -/
  | cast (path : List String) (values : List String) (expected : ValueKind)
  deriving DecidableEq, Repr

/-- A path of names, as messages show it. -/
def displayPath (path : List String) : String :=
  String.intercalate "/" path

namespace SettingsTree

/-! ## Nodes -/

/-- The node without children. -/
def leaf (key : String) : SettingsTree :=
  .node key []

/-- The name of a node. -/
def key : SettingsTree → String
  | .node k _ => k

/-- The children of a node, in order. -/
def children : SettingsTree → List SettingsTree
  | .node _ cs => cs

@[simp] theorem key_node (k : String) (cs : List SettingsTree) : (node k cs).key = k := rfl

@[simp] theorem children_node (k : String) (cs : List SettingsTree) :
    (node k cs).children = cs := rfl

/-- Whether a node has children. -/
def hasChildren (t : SettingsTree) : Bool :=
  !t.children.isEmpty

/-! ## Look-up -/

/-- The first child of a name. -/
def child? (t : SettingsTree) (k : String) : Option SettingsTree :=
  t.children.find? fun c => c.key = k

/-- The node at a path of names; the empty path leads to the node itself. -/
def childAt? (t : SettingsTree) : List String → Option SettingsTree
  | [] => some t
  | k :: path => (t.child? k).bind fun c => c.childAt? path

@[simp] theorem childAt?_nil (t : SettingsTree) : t.childAt? [] = some t := rfl

@[simp] theorem childAt?_cons (t : SettingsTree) (k : String) (path : List String) :
    t.childAt? (k :: path) = (t.child? k).bind fun c => c.childAt? path := rfl

/-- Descending along `p ++ q` is descending along `p`, then along `q` from there. -/
theorem childAt?_append (t : SettingsTree) (p q : List String) :
    t.childAt? (p ++ q) = (t.childAt? p).bind fun c => c.childAt? q := by
  induction p generalizing t with
  | nil => rfl
  | cons k p ih =>
    rw [List.cons_append, childAt?_cons, childAt?_cons]
    rcases t.child? k with _ | c
    · rfl
    · exact ih c

/-- Whether every name of a path is there. -/
def contains (t : SettingsTree) (path : List String) : Bool :=
  (t.childAt? path).isSome

/-- The names of the children, `none` for a node without any. -/
def values? (t : SettingsTree) : Option (List String) :=
  if t.children.isEmpty then none else some (t.children.map key)

/-- The values at a path, `none` when there are none. -/
def get? (t : SettingsTree) (path : List String) : Option (List String) :=
  (t.childAt? path).bind values?

/-- The values at a path, or other ones when there are none. -/
def getD (t : SettingsTree) (path : List String) (fallback : List String) : List String :=
  (t.get? path).getD fallback

/-! ## Growth -/

/-- Changes the first child of a name, which is made last when there is none. -/
def updateChild (k : String) (f : SettingsTree → SettingsTree) :
    List SettingsTree → List SettingsTree
  | [] => [f (leaf k)]
  | c :: cs => if c.key = k then f c :: cs else c :: updateChild k f cs

/-- Changes the node at a path, making the nodes of the path that are missing. -/
def modifyAt (f : SettingsTree → SettingsTree) : List String → SettingsTree → SettingsTree
  | [], t => f t
  | k :: path, t => .node t.key (updateChild k (modifyAt f path) t.children)

@[simp] theorem modifyAt_nil (f : SettingsTree → SettingsTree) (t : SettingsTree) :
    modifyAt f [] t = f t := rfl

@[simp] theorem modifyAt_cons (f : SettingsTree → SettingsTree) (k : String)
    (path : List String) (t : SettingsTree) :
    modifyAt f (k :: path) t = .node t.key (updateChild k (modifyAt f path) t.children) := rfl

/-- Adds leaves after the children of a node. -/
def appendLeaves (values : List String) (t : SettingsTree) : SettingsTree :=
  .node t.key (t.children ++ values.map leaf)

/-- Refuses a path with an empty name. -/
def checkPath (path : List String) : Except SettingsError Unit :=
  if path.any String.isEmpty then .error (.invalidPath path) else .ok ()

/-- Adds values at a path, after those that are there.  Values accumulate, repeated ones too. -/
def addValues (t : SettingsTree) (path values : List String) : Except SettingsError SettingsTree :=
  match checkPath path with
  | .error e => .error e
  | .ok () => .ok (modifyAt (appendLeaves values) path t)

/-- Adds one value at a path. -/
def add (t : SettingsTree) (path : List String) (value : String) :
    Except SettingsError SettingsTree :=
  t.addValues path [value]

/-- Makes the nodes of a path that are missing. -/
def ensurePath (t : SettingsTree) (path : List String) : Except SettingsError SettingsTree :=
  match checkPath path with
  | .error e => .error e
  | .ok () => .ok (modifyAt id path t)

/-! ## Removal and replacement -/

/-- Changes the first child of a name, if there is one. -/
def updateExisting (k : String) (f : SettingsTree → SettingsTree) :
    List SettingsTree → List SettingsTree
  | [] => []
  | c :: cs => if c.key = k then f c :: cs else c :: updateExisting k f cs

/-- Removes all children of a name. -/
def removeChild (k : String) (cs : List SettingsTree) : List SettingsTree :=
  cs.filter fun c => c.key ≠ k

/-- The tree without what is stored at a path; the empty path removes nothing. -/
def removeAt : List String → SettingsTree → SettingsTree
  | [], t => t
  | [k], t => .node t.key (removeChild k t.children)
  | k :: path, t => .node t.key (updateExisting k (removeAt path) t.children)

/-- Removes what is stored at a path, and tells whether the path is clear then.  A path that is not
there is clear already, and the empty path cannot be cleared. -/
def clear (t : SettingsTree) (path : List String) : SettingsTree × Bool :=
  (removeAt path t, !path.isEmpty)

/-- Puts values in the place of what is stored at a path.  The old values go first, so a path that
is refused may have lost its old values; the tree is returned in either case. -/
def replace (t : SettingsTree) (path values : List String) :
    SettingsTree × Except SettingsError Unit :=
  let cleared := (t.clear path).1
  match cleared.addValues path values with
  | .ok t => (t, .ok ())
  | .error e => (cleared, .error e)

/-- Lays one node over the children of another tree: the first child of its name gets its children,
and without one it becomes the last child. -/
def overlay (cs : List SettingsTree) (incoming : SettingsTree) : List SettingsTree :=
  if cs.any fun c => c.key = incoming.key then
    updateExisting incoming.key (fun c => .node c.key incoming.children) cs
  else
    cs ++ [incoming]

/-- Lays the children of another tree over this one, name by name and in order. -/
def overwrite (t other : SettingsTree) : SettingsTree :=
  .node t.key (other.children.foldl overlay t.children)

/-! ## Equality up to order -/

theorem sizeOf_lt_of_mem_children {t c : SettingsTree} (h : c ∈ t.children) :
    sizeOf c < sizeOf t := by
  obtain ⟨k, cs⟩ := t
  have := List.sizeOf_lt_of_mem h
  simp only [node.sizeOf_spec, children_node] at this ⊢
  omega

theorem mem_children_of_child? {t c : SettingsTree} {k : String} (h : t.child? k = some c) :
    c ∈ t.children :=
  List.mem_of_find?_eq_some h

theorem key_eq_of_child? {t c : SettingsTree} {k : String} (h : t.child? k = some c) :
    c.key = k := by
  simpa using List.find?_some h

/-- Whether two trees agree: they have one name and equally many children, and the first child of
each name that the left one uses, taken on the right, agrees with the child on the left. -/
def agree (a b : SettingsTree) : Bool :=
  a.key = b.key && a.children.length = b.children.length &&
    a.children.attach.all fun c =>
      match _h : b.child? c.1.key with
      | some theirs => agree theirs c.1
      | none => false
termination_by sizeOf a + sizeOf b
decreasing_by
  have := sizeOf_lt_of_mem_children c.2
  have := sizeOf_lt_of_mem_children (mem_children_of_child? _h)
  omega

/-- Agreement, with the children read off directly. -/
theorem agree_eq (a b : SettingsTree) :
    agree a b = (a.key = b.key && a.children.length = b.children.length &&
      a.children.all fun c => (b.child? c.key).any fun theirs => agree theirs c) := by
  rw [agree]
  congr 1
  rw [Bool.eq_iff_iff, List.all_eq_true, List.all_eq_true]
  constructor
  · intro h c hc
    have := h ⟨c, hc⟩ (List.mem_attach _ _)
    split at this <;> simp_all
  · intro h c _
    have := h c.1 c.2
    split <;> simp_all

/-! ## Rendering -/

mutual

/-- The lines of a tree at an indentation, each closed by a line feed. -/
def renderAt (indent : String) : SettingsTree → String
  | .node k cs =>
    indent ++ "- " ++ k ++ (if cs.isEmpty then "" else ":") ++ "\n" ++
      renderAll (indent ++ "  ") cs

/-- The lines of a list of trees. -/
def renderAll (indent : String) : List SettingsTree → String
  | [] => ""
  | t :: ts => renderAt indent t ++ renderAll indent ts

end

/-- The tree as lines, two spaces deeper for each level; a node with children ends in a colon. -/
def render (t : SettingsTree) : String :=
  renderAt "" t

end SettingsTree
end Orchestrator
