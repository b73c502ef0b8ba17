import Orchestrator.Pattern.Registry

/-!
# Combinations of pattern values

A combination chooses one value for each of several keys.  The combinations of some axes come in
the order of nested loops over the axes, sorted by key, the last axis varying fastest.

* `Combination.product`: the nested loops.
* `Combination.ofPatterns`: the combinations of a list of patterns.
* `Permutator`: the same walk one step at a time, with a cursor that turns over like an odometer.
-/

namespace Orchestrator

/-- One value for each of several keys. -/
abbrev Combination := KeyedMap String

namespace Combination

/-- All choices of one value per axis, as nested loops over the axes find them. -/
def product : List (String × List String) → List (List (String × String))
  | [] => [[]]
  | (key, values) :: axes =>
    values.flatMap fun v => (product axes).map fun c => (key, v) :: c

/-- The combinations of axes with distinct keys, in key order. -/
def ofAxes (axes : KeyedMap (List String)) : List Combination :=
  (product axes.entries).map .ofList

/-- The axes of some patterns; of several with one key the last remains. -/
def axes (patterns : List Pattern) : KeyedMap (List String) :=
  .ofList (patterns.map fun p => (p.key, p.values))

/-- The combinations of some patterns.  Without patterns there is one, which chooses nothing. -/
def ofPatterns (patterns : List Pattern) : List Combination :=
  ofAxes (axes patterns)

end Combination

/-- A walk through the combinations of some axes. -/
structure Permutator where
  /-- The values of each key. -/
  axes : KeyedMap (List String)
  /-- The position on each axis, `none` once the walk is over. -/
  cursor : Option (List Nat)
  deriving DecidableEq

namespace Permutator

/-- The first position, which exists when no axis is empty. -/
def start (axes : KeyedMap (List String)) : Option (List Nat) :=
  if axes.values.any List.isEmpty then none else some (axes.values.map fun _ => 0)

/-- A walk at its first combination. -/
def ofAxes (axes : List (String × List String)) : Permutator :=
  let axes := KeyedMap.ofList axes
  ⟨axes, start axes⟩

/-- A walk through the combinations of some patterns. -/
def ofPatterns (patterns : List Pattern) : Permutator :=
  ofAxes (patterns.map fun p => (p.key, p.values))

/-- The number of all combinations, whatever the position. -/
def total (p : Permutator) : Nat :=
  (p.axes.values.map List.length).foldr (· * ·) 1

/-- The walk from its first combination. -/
def restart (p : Permutator) : Permutator :=
  { p with cursor := start p.axes }

/-- The combination at a position. -/
def choose : List (String × List String) → List Nat → List (String × String)
  | (key, values) :: axes, i :: positions =>
    match values[i]? with
    | some v => (key, v) :: choose axes positions
    | none => choose axes positions
  | _, _ => []

/-- The next position: the last axis moves on, and one that is past its end starts again and moves
the axis before it. -/
def advance : List (List String) → List Nat → Option (List Nat)
  | values :: axes, i :: positions =>
    match advance axes positions with
    | some positions => some (i :: positions)
    | none =>
      if i + 1 < values.length then some ((i + 1) :: positions.map fun _ => 0) else none
  | _, _ => none

/-- The current combination, and the walk after it. -/
def next (p : Permutator) : Option Combination × Permutator :=
  match p.cursor with
  | none => (none, p)
  | some positions =>
    (some (.ofList (choose p.axes.entries positions)),
      { p with cursor := advance p.axes.values positions })

/-- The combinations of at most so many steps, and the walk after them. -/
def take : Nat → Permutator → List Combination × Permutator
  | 0, p => ([], p)
  | n + 1, p =>
    match p.next with
    | (none, p) => ([], p)
    | (some c, p) =>
      let (cs, p) := take n p
      (c :: cs, p)

/-- The combinations that are left, and the walk at its end.  No walk has more steps than there are
combinations. -/
def drain (p : Permutator) : List Combination × Permutator :=
  take p.total p

end Permutator
end Orchestrator
