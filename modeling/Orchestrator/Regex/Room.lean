import Orchestrator.Regex.Basic
import Orchestrator.Regex.ByteForm

/-!
# The room of an expression

An expression is carried out by two automata: one reads a text forwards and notes where groups
start and end, the other reads backwards.  Both may take only so much room.

* `Room`: the bytes that the two automata take.
* `Regex.room`: the room of an expression.
* `Regex.fits`: whether an expression takes no more room than it may.
-/

namespace Orchestrator
namespace Regex

/-- The bytes that the automata of an expression take. -/
structure Room where
  forward : Nat
  backward : Nat
  deriving DecidableEq, Repr

namespace Room

/-- The same room in both automata. -/
def both (n : Nat) : Room := ⟨n, n⟩

/-- The room of two parts. -/
def plus (a b : Room) : Room := ⟨a.forward + b.forward, a.backward + b.backward⟩

/-- The room of so many parts. -/
def times (n : Nat) (r : Room) : Room := ⟨n * r.forward, n * r.backward⟩

/-- The bytes of a state. -/
def state : Nat := 32

/-- The bytes of a way from a state to another one that reads a byte. -/
def step : Nat := 8

/-- The bytes of a way from a state to another one that reads nothing. -/
def link : Nat := 4

/-- The bytes of a state from which two ways lead on that read nothing. -/
def fork : Nat := state + 2 * link

/-- The room of a part that stands by itself, which takes a state at least. -/
def alone (r : Room) : Room := if r = both 0 then both state else r

/-- The room of the forms of some characters. -/
def ofForms (fs : List ByteForm) : Room :=
  { forward := (ByteForm.nodes fs).foldl (fun n node => n + (state + step * node.length)) state
    backward := state * (2 + ByteForm.countBackward fs) + link * fs.length }

/-- The room of the characters of some ranges: a single one takes a state for each byte, and a
state leads to all those of one byte. -/
def ofCodes (rs : CodeRanges) : Room :=
  match rs, ByteForm.ofCodes rs with
  | [], _ => both state
  | [(a, b)], [f] =>
    if a = b then both (state * f.length)
    else if b < 0x80 then both (2 * state + step)
    else ofForms [f]
  | rs, fs => if rs.all fun r => r.2 < 0x80 then both (2 * state + step * rs.length) else ofForms fs

end Room

/-- The room of a set of characters. -/
def CharacterSet.room (s : CharacterSet) : Room := .ofCodes s.codeRanges

/-- Whether a match of an expression takes a character at least. -/
def takesSome : Regex → Bool
  | .empty => false
  | .set s => !s.codeRanges.isEmpty
  | .look _ => false
  | .sequence a b => a.takesSome || b.takesSome
  | .either a b => a.takesSome && b.takesSome
  | .repeated body least _ => decide (0 < least) && body.takesSome
  | .group body => body.takesSome

/-- Whether no match of an expression takes a character. -/
def takesNone : Regex → Bool
  | .empty => true
  | .set _ => false
  | .look _ => true
  | .sequence a b => a.takesNone && b.takesNone
  | .either a b => a.takesNone && b.takesNone
  | .repeated body _ most => most = some 0 || body.takesNone
  | .group body => body.takesNone

/-- The room of a part that occurs so many times at least and at most; `more` says whether a match
of the part takes a character at least. -/
def repeatedRoom (part : Room) (more : Bool) : Nat → Option Nat → Room
  | 0, some 0 => .both 0
  | 0, some 1 => part.plus (.both (Room.fork + Room.state))
  | 0, none => part.plus (.both (if more then Room.fork else 2 * Room.fork + Room.state))
  | least, none => (part.times least).plus (.both Room.fork)
  | least, some most =>
    if most ≤ least then part.times least
    else
      let first := if least = 0 then Room.both Room.state else part.times least
      first.plus ((.both Room.state : Room).plus
        ((part.plus (.both Room.fork)).times (most - least)))

/-- The sets of alternatives that are all sets. -/
def branchSets? : Regex → Option (List CharacterSet)
  | .set s => some [s]
  | .either a b =>
    match a.branchSets?, b.branchSets? with
    | some ss, some ts => some (ss ++ ts)
    | _, _ => none
  | _ => none

/-- The set that alternatives make up, if they are all single characters or all other sets. -/
def mergedSet? (r : Regex) : Option CodeRanges :=
  match r.branchSets? with
  | none => none
  | some ss =>
    let all := ss.map CharacterSet.codeRanges
    let isSingle (rs : CodeRanges) : Bool := rs.length = 1 && rs.all fun r => r.1 = r.2
    if all.all isSingle || !all.any isSingle then some (.ofRanges all.flatten) else none

/-- The room of alternatives without what is there once for all of them. -/
def branchRoom (r : Regex) (room : Room) : Room :=
  match r with
  | .either _ _ => if r.mergedSet?.isSome then room.plus (.both Room.link)
    else ⟨room.forward - 2 * Room.state, room.backward - 2 * Room.state⟩
  | _ => room.alone.plus (.both Room.link)

/-- The room of an expression as a part of another one. -/
def room : Regex → Room
  | .empty => .both 0
  | .set s => s.room
  | .look _ => .both Room.state
  | .sequence a b => a.room.plus b.room
  | .either a b =>
    match (Regex.either a b).mergedSet? with
    | some rs => .ofCodes rs
    | none =>
      ((branchRoom a a.room).plus (branchRoom b b.room)).plus (.both (2 * Room.state))
  | .repeated body least most =>
    let bound (n : Nat) : Nat := if body.takesNone then min n 1 else n
    let most := if body.takesNone then some ((most.map bound).getD 1) else most
    repeatedRoom body.room.alone body.takesSome (bound least) most
  | .group body => body.room.alone.plus ⟨2 * Room.state, 0⟩

/-- The room that every expression takes besides. -/
def commonRoom : Room := ⟨208, 144⟩

/-- How many bytes an automaton may take. -/
def sizeLimit : Nat := 10485760

/-- Whether an expression takes no more room than it may. -/
def fits (r : Regex) : Bool :=
  let whole := r.room.alone.plus commonRoom
  whole.forward ≤ sizeLimit && whole.backward ≤ sizeLimit

end Regex
end Orchestrator
