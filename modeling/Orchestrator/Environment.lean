import Orchestrator.KeyedMap
import Orchestrator.Text.Encoding

/-!
# The environment of a process

A process is given its variables as texts: a name, a sign of equality and a value.  A name may hold
such a sign itself, so that one text may be read in more than one way, and several texts may give a
value to one variable.

* `Environment.texts`: the texts, in the order of the names.
* `Environment.valueOf?`: the value of a variable, which the first text that fits gives.
* `Environment.reread`: the variables as a process sees them that takes each name to end at the
  first sign of equality behind its first character.
* `Environment.forChild`: the environment that a process hands on with some variables set.
* `Environment.toRows`, `Environment.ofRows`: the variables in rows of bytes, and as texts.
-/

namespace Orchestrator

/-- The variables that a process is given, by the names with which they were set. -/
abbrev Environment := KeyedMap String

namespace Environment

/-- The texts that a process is given. -/
def texts (e : Environment) : List String :=
  e.entries.map fun v => v.1 ++ "=" ++ v.2

/-- What stands in a text behind a name and a sign of equality. -/
def valueIn? (name : String) (text : String) : Option String :=
  let start := name.toList ++ ['=']
  if start.isPrefixOf text.toList then some (String.ofList (text.toList.drop start.length))
  else none

/-- The values that the texts give to a variable. -/
def values (e : Environment) (name : String) : List String :=
  if name = "" then [] else e.texts.filterMap (valueIn? name)

/-- The value of a variable. -/
def valueOf? (e : Environment) (name : String) : Option String :=
  (e.values name).head?

/-- The name and the value that are read from a text. -/
def read? (text : String) : Option (String × String) :=
  match text.toList with
  | [] => none
  | c :: cs =>
    match cs.dropWhile (· ≠ '=') with
    | [] => none
    | _ :: value => some (String.ofList (c :: cs.takeWhile (· ≠ '=')), String.ofList value)

/-- The environment of some texts. -/
def ofTexts (texts : List String) : Environment :=
  .ofList (texts.filterMap read?)

/-- The variables as they are read from the texts; of several values the last one counts. -/
def reread (e : Environment) : Environment := ofTexts e.texts

/-- The environment for a process that is started with some variables set. -/
def forChild (e set : Environment) : Environment :=
  if set.isEmpty then e else e.reread.overlay set

/-- The variables with their names and values in rows of bytes. -/
def toRows (e : Environment) : Environment :=
  .ofList (e.entries.map fun v => (Text.toRow v.1, Text.toRow v.2))

/-- The variables with the texts that their names and values are shown as. -/
def ofRows (e : Environment) : Environment :=
  .ofList (e.entries.map fun v => (Text.ofRow v.1, Text.ofRow v.2))

/-- Whether a name is one that a shell may give to a variable. -/
def isShellName (name : String) : Bool :=
  match name.toList with
  | [] => false
  | c :: cs => (c.isAlpha || c == '_') && cs.all fun c => c.isAlphanum || c == '_'

/-- The variables that a shell takes over. -/
def forShell (e : Environment) : Environment :=
  e.reread.filter isShellName

end Environment
end Orchestrator
