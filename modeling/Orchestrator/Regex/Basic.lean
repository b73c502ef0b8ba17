import Orchestrator.Regex.CharacterSet

/-!
# Regular expressions

An expression is looked for in a text as a whole: from a set of places it leads to the places at
which a match that starts at one of them may end.  A match may start anywhere, so that it is found
when the set of all places leads to some place.

* `Regex`: expressions.
* `Regex.reach`: the places to which an expression leads.
* `Regex.isFoundIn`: whether a text holds a match.
-/

namespace Orchestrator

namespace Regex

/-- What may be asked of a place with respect to words. -/
inductive WordLimit where
  | either
  | neither
  | begins
  | ends
  /-- No word goes on before. -/
  | startHalf
  /-- No word goes on behind. -/
  | endHalf
  deriving DecidableEq, Repr

/-- What may be asked of a place. -/
inductive Look where
  | textStart
  | textEnd
  /-- The start of a line, which a carriage return may end too. -/
  | lineStart (carriageReturn : Bool)
  | lineEnd (carriageReturn : Bool)
  /-- The limit of a word, of ASCII characters only or of any. -/
  | word (limit : WordLimit) (isAscii : Bool)
  deriving DecidableEq, Repr

/-- A place in a text: the characters on both sides, if there are any. -/
structure Place where
  before : Option Char
  behind : Option Char
  deriving DecidableEq, Repr

namespace Place

/-- The places of a text behind a character. -/
def after (before : Option Char) : List Char → List Place
  | [] => [⟨before, none⟩]
  | c :: cs => ⟨before, some c⟩ :: after (some c) cs

/-- The places of a text. -/
def all (text : List Char) : List Place := after none text

/-- Whether the word limit lies at a place. -/
def isWordLimit (p : Place) (limit : WordLimit) (isAscii : Bool) : Bool :=
  let isIn (c : Char) := isWordCharacter c && !(isAscii && '\x7f' < c)
  let before := p.before.any isIn
  let behind := p.behind.any isIn
  match limit with
  | .either => before != behind
  | .neither => before == behind
  | .begins => !before && behind
  | .ends => before && !behind
  | .startHalf => !before
  | .endHalf => !behind

/-- Whether a place is as it is asked to be.  Between a carriage return and a line feed no line
starts and none ends. -/
def satisfies (p : Place) : Look → Bool
  | .textStart => p.before.isNone
  | .textEnd => p.behind.isNone
  | .lineStart carriageReturn =>
    p.before.isNone || p.before = some '\n' ||
      carriageReturn && p.before = some '\r' && p.behind ≠ some '\n'
  | .lineEnd carriageReturn =>
    p.behind.isNone || carriageReturn && p.behind = some '\r' ||
      p.behind = some '\n' && !(carriageReturn && p.before = some '\r')
  | .word limit isAscii => p.isWordLimit limit isAscii

end Place

/-- For each place of a text, whether it belongs to a set of places. -/
abbrev Marks := List Bool

namespace Marks

/-- The places of which something is true. -/
def restrict (places : List Place) (p : Place → Bool) (marks : Marks) : Marks :=
  List.zipWith (fun place mark => mark && p place) places marks

/-- The places behind the marked ones. -/
def shift (marks : Marks) : Marks := false :: marks.dropLast

/-- The places of two sets. -/
def join (a b : Marks) : Marks := List.zipWith or a b

/-- Does something with a set so many times, unless nothing changes any more. -/
def iterate (f : Marks → Marks) : Nat → Marks → Marks
  | 0, marks => marks
  | n + 1, marks => if f marks = marks then marks else iterate f n (f marks)

end Marks
end Regex

/-- A regular expression. -/
inductive Regex where
  | empty
  | set (set : Regex.CharacterSet)
  | look (look : Regex.Look)
  | sequence (first second : Regex)
  | either (first second : Regex)
  /-- So many times at least and, if there is a bound, at most. -/
  | repeated (body : Regex) (least : Nat) (most : Option Nat)
  /-- A part of which is noted where it was found. -/
  | group (body : Regex)
  deriving DecidableEq, Repr

namespace Regex

/-- The places at which a match ends that starts at a marked place. -/
def reach (places : List Place) : Regex → Marks → Marks
  | .empty, marks => marks
  | .set s, marks =>
    (marks.restrict places fun p => p.behind.any s.contains).shift
  | .look l, marks => marks.restrict places fun p => p.satisfies l
  | .sequence a b, marks => b.reach places (a.reach places marks)
  | .either a b, marks => (a.reach places marks).join (b.reach places marks)
  | .repeated body least most, marks =>
    Marks.iterate (fun m => m.join (body.reach places m))
      ((most.map fun n => n - least).getD places.length)
      (Marks.iterate (body.reach places) least marks)
  | .group body, marks => body.reach places marks

/-- Whether a text holds a match. -/
def isFoundIn (r : Regex) (text : String) : Bool :=
  let places := Place.all text.toList
  (r.reach places (places.map fun _ => true)).contains true

end Regex
end Orchestrator
