import Orchestrator.KeyedMap
import Orchestrator.Pattern.Basic

/-!
# The patterns of a run

A registry holds patterns by name and lists them in the order of their names.

* `PatternRegistry.add`: a pattern of a name that is there takes its place.
* `PatternRegistry.setValues`, `PatternRegistry.override`: other values for registered patterns.
* `InlinePatterns.extract`: the patterns that the settings define, and the settings without them.
-/

namespace Orchestrator

/-- Patterns by name. -/
structure PatternRegistry where
  /-- Each pattern, under its own name. -/
  byKey : KeyedMap Pattern
  deriving DecidableEq

/-- Values that the command line gives to a pattern. -/
structure PatternOverride where
  key : String
  values : List String
  deriving DecidableEq, Repr

namespace PatternRegistry

/-- The registry without patterns. -/
def empty : PatternRegistry := ⟨.empty⟩

/-- Registers a pattern, in the place of an earlier one of its name. -/
def add (r : PatternRegistry) (p : Pattern) : PatternRegistry :=
  ⟨r.byKey.insert p.key p⟩

/-- The pattern of a name. -/
def get? (r : PatternRegistry) (key : String) : Option Pattern :=
  r.byKey.get? key

/-- Whether a name is registered. -/
def contains (r : PatternRegistry) (key : String) : Bool :=
  r.byKey.contains key

/-- The patterns, in the order of their names. -/
def toList (r : PatternRegistry) : List Pattern :=
  r.byKey.values

/-- Whether there is no pattern. -/
def isEmpty (r : PatternRegistry) : Bool :=
  r.byKey.isEmpty

/-- Gives a registered pattern other values.  `none` when the name is not registered; an empty list
of values is refused. -/
def setValues (r : PatternRegistry) (key : String) (values : List String) :
    Option (Except PatternError PatternRegistry) :=
  (r.get? key).map fun p => (p.withValues values).map fun p => ⟨r.byKey.insert key p⟩

/-- Applies one override.  A name that is not registered is passed over, and a refused override
changes nothing and is reported. -/
def overrideOne (r : PatternRegistry) (o : PatternOverride) :
    PatternRegistry × List (String × PatternError) :=
  match r.setValues o.key o.values with
  | none => (r, [])
  | some (.ok r) => (r, [])
  | some (.error e) => (r, [(o.key, e)])

/-- Applies overrides in order; the refused ones are returned beside the registry. -/
def override : List PatternOverride → PatternRegistry →
    PatternRegistry × List (String × PatternError)
  | [], r => (r, [])
  | o :: os, r =>
    let (r, refused) := r.overrideOne o
    let (r, more) := override os r
    (r, refused ++ more)

end PatternRegistry

/-- What is found in the section of inline pattern definitions. -/
structure InlinePatterns where
  /-- The patterns with a valid definition. -/
  registry : PatternRegistry
  /-- The names with an invalid definition, and what is wrong with each. -/
  refused : List (String × PatternError)
  /-- The settings without the section. -/
  rest : SettingsTree

namespace InlinePatterns

/-- Reads one definition. -/
def readDefinition (found : PatternRegistry × List (String × PatternError))
    (definition : SettingsTree) : PatternRegistry × List (String × PatternError) :=
  match Pattern.ofDefinition definition.key definition with
  | .ok p => (found.1.add p, found.2)
  | .error e => (found.1, found.2 ++ [(definition.key, e)])

/-- Moves the inline pattern definitions out of the settings. -/
def extract (settings : SettingsTree) : InlinePatterns :=
  let definitions := match settings.child? Names.patterns with
    | some scope => scope.children
    | none => []
  let (registry, refused) := definitions.foldl readDefinition (.empty, [])
  { registry, refused, rest := (settings.clear [Names.patterns]).1 }

end InlinePatterns
end Orchestrator
