import Orchestrator.Settings.Names
import Orchestrator.Settings.Reading

/-!
# Patterns

A pattern is a named axis of values, such as the compilers `gcc` and `clang` under the name
`COMPILER`.  It has at least one value, and may have a short and a long option by which the command
line replaces the values.

* `Pattern.make`, `Pattern.withValues`: refuse an empty list of values.
* `Pattern.ofDefinition`, `Pattern.definition`: a pattern and its definition in the settings.
* `Pattern.render`: a pattern on one line.
-/

namespace Orchestrator

/-- A named axis of values. -/
structure Pattern where
  /-- The name, as it stands between braces in a task. -/
  key : String
  /-- The values, in the order in which they are tried. -/
  values : List String
  /-- The one-character option that replaces the values. -/
  shortOption : Option Char
  /-- The long option that replaces the values. -/
  longOption : Option String
  /-- There is a value to choose. -/
  values_ne_nil : values ≠ []
  deriving DecidableEq

/-- Why a pattern is refused. -/
inductive PatternError where
  | noValues (key : String)
  | invalidDefinition (key : String) (source : SettingsError)
  deriving DecidableEq, Repr

/-- The wording of a refusal. -/
def PatternError.message : PatternError → String
  | .noValues key => s!"Pattern '{key}' must define at least one value"
  | .invalidDefinition key source =>
    "Pattern '" ++ key ++ "' has an invalid definition: " ++ source.message

namespace Pattern

/-- A pattern with the given parts, refused when it has no value. -/
def make (key : String) (values : List String) (shortOption : Option Char)
    (longOption : Option String) : Except PatternError Pattern :=
  if h : values = [] then .error (.noValues key)
  else .ok ⟨key, values, shortOption, longOption, h⟩

/-- The pattern with other values, refused when there are none. -/
def withValues (p : Pattern) (values : List String) : Except PatternError Pattern :=
  if h : values = [] then .error (.noValues p.key)
  else .ok { p with values := values, values_ne_nil := h }

/-! ## Definitions in the settings -/

/-- Turns an error of the settings into one of the pattern that was read. -/
def inDefinition {α : Type} (key : String) : Except SettingsError α → Except PatternError α
  | .ok a => .ok a
  | .error e => .error (.invalidDefinition key e)

/-- The pattern of a name that a node of the settings defines. -/
def ofDefinition (key : String) (definition : SettingsTree) : Except PatternError Pattern := do
  let values ← inDefinition key (definition.readD .list [Names.defaultValues] [])
  let short ← inDefinition key (definition.read? .character [Names.shortOption])
  let long ← inDefinition key (definition.read? .text [Names.longOption])
  make key values short long

/-- The node of the settings that defines a pattern. -/
def definition (p : Pattern) : SettingsTree :=
  .node p.key <|
    [.node Names.defaultValues (p.values.map .leaf)] ++
    (p.shortOption.map fun c => .node Names.shortOption [.leaf (String.singleton c)]).toList ++
    (p.longOption.map fun l => .node Names.longOption [.leaf l]).toList

/-! ## Rendering -/

/-- The pattern on one line: name, options and values. -/
def render (p : Pattern) : String :=
  let short := match p.shortOption with
    | some c => "short option: " ++ String.singleton c ++ ", "
    | none => ""
  let long := match p.longOption with
    | some l => "long option: " ++ l ++ ", "
    | none => ""
  "\x7b" ++ p.key ++ ": " ++ short ++ long ++ "values: \x7b" ++
    String.join (p.values.map fun v => v ++ ";") ++ "\x7d\x7d"

end Pattern
end Orchestrator
