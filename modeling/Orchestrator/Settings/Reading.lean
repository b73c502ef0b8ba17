import Orchestrator.Path
import Orchestrator.Settings.Basic
import Orchestrator.Text.Numeral
import Orchestrator.Text.Quoted

/-!
# Typed reads

The values at a path are read as a text, a yes or no, a number, a character, a path or a list.  Of
several values a scalar reading takes the last, and a missing path is no error.

* `Reading`: how a list of values is read, with one value of it for each kind.
* `SettingsTree.read?`, `SettingsTree.readD`: the typed reads.
* `SettingsError.message`: the wording of the two errors of the settings.
-/

namespace Orchestrator

/-- How a list of values is read. -/
structure Reading (α : Type) where
  /-- What messages call the result. -/
  kind : ValueKind
  /-- The result, `none` when the values do not fit. -/
  ofValues : List String → Option α

namespace Reading

/-- The last value. -/
def text : Reading String where
  kind := .text
  ofValues values := values.getLast?

/-- The meaning of a word as a switch, in any case of its ASCII letters. -/
def switchOfWord (word : String) : Option Bool :=
  let w := word.toList.map Char.toLower
  if w ∈ ["yes".toList, "true".toList, "1".toList, "on".toList] then some true
  else if w ∈ ["no".toList, "false".toList, "0".toList, "off".toList] then some false
  else none

/-- The last value as a switch. -/
def yesNo : Reading Bool where
  kind := .yesNo
  ofValues values := values.getLast?.bind switchOfWord

/-- The last value as a number that fits into thirty-two bits, blanks around it left out. -/
def count : Reading Nat where
  kind := .count
  ofValues values := values.getLast?.bind fun v => Text.readCount (Text.trimBlanks v.toList)

/-- The last value as the one character that it consists of. -/
def character : Reading Char where
  kind := .character
  ofValues values := values.getLast?.bind fun v =>
    match v.toList with
    | [c] => some c
    | _ => none

/-- The last value as a path of the file system. -/
def path : Reading Path where
  kind := .path
  ofValues values := values.getLast?.map Path.ofText

/-- All values. -/
def list : Reading (List String) where
  kind := .list
  ofValues values := some values

end Reading

namespace SettingsTree

variable {α : Type}

/-- Reads the values at a path; `none` when there are none. -/
def read? (t : SettingsTree) (r : Reading α) (path : List String) :
    Except SettingsError (Option α) :=
  match t.get? path with
  | none => .ok none
  | some values =>
    match r.ofValues values with
    | some a => .ok (some a)
    | none => .error (.cast path values r.kind)

/-- Reads the values at a path, with a result for when there are none. -/
def readD (t : SettingsTree) (r : Reading α) (path : List String) (fallback : α) :
    Except SettingsError α :=
  (t.read? r path).map fun a => a.getD fallback

end SettingsTree

/-- The wording of an error of the settings. -/
def SettingsError.message : SettingsError → String
  | .invalidPath path =>
    "Invalid settings path '" ++ displayPath path ++ "': path segments must not be empty"
  | .cast path values expected =>
    "Could not interpret the value(s) " ++ Text.quoteList values ++ " at '" ++ displayPath path ++
      "' as " ++ expected.describe

end Orchestrator
