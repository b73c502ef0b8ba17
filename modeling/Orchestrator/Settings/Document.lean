import Orchestrator.Settings.Names
import Orchestrator.Settings.Reading
import Orchestrator.Yaml.Value

/-!
# Settings from a document

A YAML value becomes a settings tree: a mapping makes a node for each key, a sequence adds its items
at the place where it stands, and a scalar adds a leaf with its text.  A null adds nothing, and a
tag does not count.

* `SettingsTree.scalarText?`: the text of a scalar.
* `SettingsTree.addValue`: adds a value at a path.
* `SettingsTree.parse`: the tree of a text.
-/

namespace Orchestrator

/-- Why a text holds no settings. -/
inductive DocumentError where
  /-- The text is no YAML document. -/
  | yaml
  /-- A key at a path is neither a text nor a number nor a boolean. -/
  | unsupported (path : List String)
  | settings (source : SettingsError)
  deriving DecidableEq, Repr

/-- The wording of an error, for a text from a file. -/
def DocumentError.message (file : String) : DocumentError → String
  | .yaml => "Invalid YAML in '" ++ file ++ "': "
  | .unsupported path => "Unsupported settings entry at '" ++ String.intercalate "." path ++ "'"
  | .settings source => source.message

namespace SettingsTree

open Yaml (Value)

/-- The text of a scalar; a null and a value with a tag have none. -/
def scalarText? : Value → Option String
  | .text s => some s
  | .bool b => some (if b then "true" else "false")
  | .number n => some n.render
  | _ => none

/-- Makes the node of a key below a path; the longer path comes with the tree. -/
def addKey (t : SettingsTree) (path : List String) (key : Value) :
    Except DocumentError (List String × SettingsTree) :=
  match scalarText? key with
  | none => .error (.unsupported path)
  | some k =>
    match t.ensurePath (path ++ [k]) with
    | .ok t => .ok (path ++ [k], t)
    | .error e => .error (.settings e)

/-- Adds the text of a scalar at a path. -/
def addText (t : SettingsTree) (path : List String) (s : String) :
    Except DocumentError SettingsTree :=
  match t.add path s with
  | .ok t => .ok t
  | .error e => .error (.settings e)

mutual

/-- Adds a value at a path. -/
def addValue (path : List String) : Value → SettingsTree → Except DocumentError SettingsTree
  | .null, t => .ok t
  | .map entries, t => addEntries path entries t
  | .list items, t => addItems path items t
  | .tagged _ v, t => addValue path v t
  | .text s, t => t.addText path s
  | .bool b, t => t.addText path (if b then "true" else "false")
  | .number n, t => t.addText path n.render

/-- Adds the items of a sequence at a path, in order. -/
def addItems (path : List String) : List Value → SettingsTree → Except DocumentError SettingsTree
  | [], t => .ok t
  | v :: vs, t =>
    match addValue path v t with
    | .ok t => addItems path vs t
    | .error e => .error e

/-- Adds the entries of a mapping below a path, in order. -/
def addEntries (path : List String) :
    List (Value × Value) → SettingsTree → Except DocumentError SettingsTree
  | [], t => .ok t
  | (k, v) :: es, t =>
    match t.addKey path k with
    | .error e => .error e
    | .ok (inner, t) =>
      match addValue inner v t with
      | .ok t => addEntries path es t
      | .error e => .error e

end

/-- The tree of a value. -/
def ofValue (v : Value) : Except DocumentError SettingsTree :=
  addValue [] v (.leaf Names.root)

/-- The tree of a text. -/
def parse (text : String) : Except DocumentError SettingsTree :=
  match Value.parse? text with
  | none => .error .yaml
  | some v => ofValue v

end SettingsTree
end Orchestrator
